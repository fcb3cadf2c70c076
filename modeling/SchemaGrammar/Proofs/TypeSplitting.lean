import SchemaGrammar.Proofs.TypePieces
set_option autoImplicit false

/-!
Nothing is lost when a text is split into tokens: every token stands in the text at its column, and
what stands in no token is blank. A text is not split when cutting it from left to right comes to a
character with which no piece begins; what stands before that character can be split by itself.
-/

namespace SchemaGrammar.TypeRef

/-- The letters of a token take in a place of the text, counted from zero. -/
def Token.Covers (place : Nat) (token : Token) : Prop :=
  token.column ≤ place + 1 ∧ place + 1 < token.column + token.text.toList.length

/-- A text split into tokens, the last of which stands for its end. -/
structure Splits (text : String) (tokens : List Token) : Prop where
  columns : tokens.Pairwise fun token later => token.column < later.column
  /-- The word of a token is what stands at its column. -/
  words : ∀ token ∈ tokens, token.kind ≠ .ending →
    1 ≤ token.column ∧ token.text.toList <+: text.toList.drop (token.column - 1) ∧
      Spelling token.kind token.text
  /-- Whatever stands in no token is blank. -/
  blanks : ∀ place c, text.toList[place]? = some c →
    Text.isBlank c = true ∨ ∃ token ∈ tokens, token.Covers place
  /-- No identifier could be longer. -/
  maximal : ∀ token ∈ tokens, token.kind = .identifier →
    ∀ c, text.toList[token.column - 1 + token.text.toList.length]? = some c →
      isIdentifierChar c = false
  ending : ∃ others, tokens = others ++ [⟨.ending, "", text.length + 1⟩] ∧
    ∀ token ∈ others, token.kind ≠ .ending

namespace Piece

theorem pairwise_tokensFrom (column : Nat) (pieces : List Piece) :
    (tokensFrom column pieces).Pairwise fun token later => token.column < later.column := by
  induction pieces generalizing column with
  | nil => exact .nil
  | cons piece pieces inductionHypothesis =>
    have nonempty := List.length_pos_iff.mpr piece.letters_ne_nil
    cases piece with
    | blank c blank => exact inductionHypothesis _
    | word kind text spelling =>
      refine .cons ?_ (inductionHypothesis _)
      intro later member
      obtain ⟨front, _, _, _, _, _, rfl⟩ := mem_tokensFrom_iff.mp member
      dsimp only
      omega

/-- The first place behind the letters of pieces is behind all of their tokens. -/
theorem column_lt_of_mem {column : Nat} {pieces : List Piece} {token : Token}
    (member : token ∈ tokensFrom column pieces) :
    token.column < column + (lettersOf pieces).length := by
  obtain ⟨front, kind, text, spelling, back, rfl, rfl⟩ := mem_tokensFrom_iff.mp member
  have nonempty := List.length_pos_iff.mpr spelling.toList_ne_nil
  simp only [lettersOf_append, lettersOf_cons, List.length_append, letters]
  omega

theorem exists_covers {front back : List Piece} {kind : TokenKind} {text : String}
    {spelling : Spelling kind text} {place : Nat} (low : (lettersOf front).length ≤ place)
    (high : place < (lettersOf front).length + text.toList.length) :
    ∃ token ∈ tokensFrom 1 (front ++ word kind text spelling :: back), token.Covers place := by
  refine ⟨_, mem_tokensFrom_iff.mpr ⟨front, kind, text, spelling, back, rfl, rfl⟩, ?_⟩
  simp only [Token.Covers]
  omega

end Piece

/-- The words of a text that is cut as a whole are its tokens. -/
theorem Cut.splits {text : String} {pieces : List Piece} (cut : Cut text.toList pieces []) :
    Splits text (Piece.tokensFrom 1 pieces ++ [endToken text]) := by
  have letters : text.toList = Piece.lettersOf pieces := cut.letters_eq.symm
  have notEnding : ∀ token ∈ Piece.tokensFrom 1 pieces, token.kind ≠ .ending := by
    intro token member
    obtain ⟨_, kind, text, spelling, _, _, rfl⟩ := Piece.mem_tokensFrom_iff.mp member
    exact spelling.ne_ending
  constructor
  case columns =>
    refine List.pairwise_append.mpr ⟨Piece.pairwise_tokensFrom 1 pieces, by simp, ?_⟩
    intro token member last isLast
    rw [List.mem_singleton.mp isLast, endToken, endColumn, letters, Nat.add_comm]
    exact Piece.column_lt_of_mem member
  case words =>
    intro token member ordinary
    rcases List.mem_append.mp member with member | last
    · obtain ⟨front, kind, word, spelling, back, rfl, rfl⟩ := Piece.mem_tokensFrom_iff.mp member
      refine ⟨by simp, ?_, spelling⟩
      simp [letters, Piece.letters]
    · rw [List.mem_singleton.mp last] at ordinary
      exact absurd rfl ordinary
  case blanks =>
    intro place c found
    obtain ⟨inside, rfl⟩ := List.getElem?_eq_some_iff.mp found
    have parts : Piece.lettersOf pieces = text.toList.take place ++
        text.toList[place] :: text.toList.drop (place + 1) := by
      rw [List.getElem_cons_drop, List.take_append_drop, letters]
    obtain ⟨before, piece, behind, first, last, rfl, own, earlier, _⟩ :=
      Piece.exists_of_lettersOf_eq parts
    have position : place = (Piece.lettersOf before).length + first.length := by
      rw [← List.length_append, ← earlier, List.length_take_of_le (Nat.le_of_lt inside)]
    cases piece with
    | blank other blank =>
      have same : text.toList[place] ∈ (Piece.blank other blank).letters := by simp [own]
      exact .inl (List.mem_singleton.mp same ▸ blank)
    | word kind word spelling =>
      have bound := congrArg List.length own
      simp only [Piece.letters, List.length_append, List.length_cons] at bound
      obtain ⟨token, member, covers⟩ : ∃ token ∈ Piece.tokensFrom 1
          (before ++ .word kind word spelling :: behind), token.Covers place :=
        Piece.exists_covers (by omega) (by omega)
      exact .inr ⟨token, List.mem_append_left _ member, covers⟩
  case maximal =>
    intro token member identifier c found
    rcases List.mem_append.mp member with member | last
    · obtain ⟨front, kind, word, spelling, back, rfl, rfl⟩ := Piece.mem_tokensFrom_iff.mp member
      have apart : Apart (Piece.lettersOf back ++ []) := cut.endsBefore identifier
      apply apart c
      simpa [letters, Piece.letters, List.getElem?_append_right, ← List.head?_eq_getElem?]
        using found
    · rw [List.mem_singleton.mp last] at identifier
      cases identifier
  case ending => exact ⟨_, rfl, notEnding⟩

theorem tokenize_eq_error_iff {text : String} {error : SyntaxError} :
    tokenize text = .error error ↔ ∃ unexpected, scan 1 text.toList = .error unexpected ∧
      error = ⟨.unexpectedCharacter unexpected.character, text, unexpected.column⟩ := by
  unfold tokenize
  rcases scan 1 text.toList with unexpected | tokens <;> simp [eq_comm]

theorem exists_scan_of_tokenize {text : String} {tokens : List Token}
    (tokenized : tokenize text = .ok tokens) :
    ∃ scanned, scan 1 text.toList = .ok scanned ∧ scanned ++ [endToken text] = tokens := by
  unfold tokenize at tokenized
  rcases scanned : scan 1 text.toList with unexpected | scanned
  · simp [scanned] at tokenized
  · simpa [scanned, endToken] using tokenized

/-- Splitting a text into tokens loses nothing. It fails at the first character, from left to right,
with which no piece begins, and the error names that character and its column; whatever has been
passed by then can be split. -/
theorem tokenize_without_loss (text : String) :
    (∀ tokens, tokenize text = .ok tokens → Splits text tokens) ∧
    (∀ error, tokenize text = .error error ↔
      ∃ pieces c rest, Cut text.toList pieces (c :: rest) ∧ ¬ Begins (c :: rest) ∧
        error = ⟨.unexpectedCharacter c, text, (Piece.lettersOf pieces).length + 1⟩) ∧
    ∀ pieces rest, Cut text.toList pieces rest →
      ∃ tokens, tokenize (String.ofList (Piece.lettersOf pieces)) = .ok tokens := by
  refine ⟨?_, ?_, ?_⟩
  · intro tokens tokenized
    obtain ⟨scanned, within, rfl⟩ := exists_scan_of_tokenize tokenized
    obtain ⟨pieces, cut, rfl⟩ := scan_eq_ok_iff.mp within
    exact cut.splits
  · intro error
    simp only [tokenize_eq_error_iff, scan_eq_error_iff, Nat.add_comm 1]
    constructor
    · rintro ⟨_, ⟨pieces, c, rest, cut, stuck, rfl⟩, rfl⟩
      exact ⟨pieces, c, rest, cut, stuck, rfl⟩
    · rintro ⟨pieces, c, rest, cut, stuck, rfl⟩
      exact ⟨_, ⟨pieces, c, rest, cut, stuck, rfl⟩, rfl⟩
  · intro pieces rest cut
    have alone := cut.in_front_of apart_nil
    rw [List.append_nil] at alone
    refine ⟨_, tokenize_eq_ok_iff.mpr (scan_eq_ok_iff.mpr ⟨pieces, ?_, rfl⟩)⟩
    rwa [String.toList_ofList]

end SchemaGrammar.TypeRef
