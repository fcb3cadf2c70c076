import Mathlib.Data.List.Basic
import SchemaGrammar.Proofs.TypePrinting
set_option autoImplicit false

/-!
How a text is split into tokens. A text is cut from left to right into pieces, each of them a blank
or the word of a token, and an identifier is cut off only where the text behind does not prolong it.
Scanning cuts a text as far as a piece begins (`scan_eq_ok_iff`, `scan_eq_error_iff`): to its end,
or up to the first character with which no piece begins. So nothing is lost between the tokens but
blanks, and the column of a token is the place of its word in the text.
-/

namespace SchemaGrammar.TypeRef

/-- A piece of a text: a blank or the word of a token. -/
inductive Piece where
  | blank (c : Char) (blank : Text.isBlank c = true)
  | word (kind : TokenKind) (text : String) (spelling : Spelling kind text)

namespace Piece

def letters : Piece → List Char
  | blank c _ => [c]
  | word _ text _ => text.toList

/-- The token that a piece at a column makes; a blank makes none. -/
def tokens (column : Nat) : Piece → List Token
  | blank _ _ => []
  | word kind text _ => [⟨kind, text, column⟩]

/-- The text behind does not prolong the piece. -/
def EndsBefore (rest : List Char) : Piece → Prop
  | blank _ _ => True
  | word kind _ _ => kind = .identifier → Apart rest

/-- The letters of several pieces, one after the other. -/
def lettersOf (pieces : List Piece) : List Char := pieces.flatMap letters

/-- The tokens of several pieces, the first of which stands at a column. -/
def tokensFrom (column : Nat) : List Piece → List Token
  | [] => []
  | piece :: rest => piece.tokens column ++ tokensFrom (column + piece.letters.length) rest

@[simp]
theorem lettersOf_nil : lettersOf [] = [] := rfl

@[simp]
theorem lettersOf_cons (piece : Piece) (rest : List Piece) :
    lettersOf (piece :: rest) = piece.letters ++ lettersOf rest := rfl

@[simp]
theorem lettersOf_append (front back : List Piece) :
    lettersOf (front ++ back) = lettersOf front ++ lettersOf back :=
  List.flatMap_append

theorem tokensFrom_append (column : Nat) (front back : List Piece) :
    tokensFrom column (front ++ back) =
      tokensFrom column front ++ tokensFrom (column + (lettersOf front).length) back := by
  induction front generalizing column with
  | nil => rfl
  | cons piece front inductionHypothesis =>
    simp [tokensFrom, inductionHypothesis, Nat.add_assoc]

/-- The tokens of pieces are their words, each at the place where its letters begin. -/
theorem mem_tokensFrom_iff {column : Nat} {pieces : List Piece} {token : Token} :
    token ∈ tokensFrom column pieces ↔
      ∃ front kind text spelling back, pieces = front ++ word kind text spelling :: back ∧
        token = ⟨kind, text, column + (lettersOf front).length⟩ := by
  constructor
  · intro member
    induction pieces generalizing column with
    | nil => simp [tokensFrom] at member
    | cons piece pieces inductionHypothesis =>
      rcases List.mem_append.mp member with first | later
      · cases piece with
        | blank c blank => simp [tokens] at first
        | word kind text spelling =>
          exact ⟨[], kind, text, spelling, pieces, rfl, by simpa [tokens] using first⟩
      · obtain ⟨front, kind, text, spelling, back, rfl, rfl⟩ := inductionHypothesis later
        exact ⟨piece :: front, kind, text, spelling, back, rfl, by simp [Nat.add_assoc]⟩
  · intro stands
    obtain ⟨front, kind, text, spelling, back, rfl, rfl⟩ := stands
    simp [tokensFrom_append, tokensFrom, tokens]

/-- Every letter stands in one of the pieces. -/
theorem exists_of_lettersOf_eq {pieces : List Piece} {front back : List Char} {c : Char}
    (letters : lettersOf pieces = front ++ c :: back) :
    ∃ before piece behind first last, pieces = before ++ piece :: behind ∧
      piece.letters = first ++ c :: last ∧ front = lettersOf before ++ first ∧
      back = last ++ lettersOf behind := by
  induction pieces generalizing front with
  | nil => simp at letters
  | cons piece pieces inductionHypothesis =>
    rw [lettersOf_cons] at letters
    rcases List.append_eq_append_iff.mp letters with
      ⟨later, rfl, rest⟩ | ⟨_ | ⟨d, inside⟩, own, rest⟩
    · obtain ⟨before, other, behind, first, last, rfl, own, rfl, rfl⟩ := inductionHypothesis rest
      exact ⟨piece :: before, other, behind, first, last, rfl, own, by simp, rfl⟩
    · have later : lettersOf pieces = [] ++ c :: back := by simpa using rest.symm
      obtain ⟨before, other, behind, first, last, rfl, own', nothing, rfl⟩ :=
        inductionHypothesis later
      refine ⟨piece :: before, other, behind, first, last, rfl, own', ?_, rfl⟩
      rw [lettersOf_cons, List.append_assoc, ← nothing, own, List.append_nil, List.append_nil]
    · obtain ⟨rfl, rfl⟩ := List.cons.inj rest
      exact ⟨[], piece, pieces, front, inside, rfl, own, rfl, rfl⟩

end Piece

theorem Spelling.toList_ne_nil {kind : TokenKind} {text : String} (spelling : Spelling kind text) :
    text.toList ≠ [] := by
  cases spelling with
  | identifier identifier =>
    obtain ⟨c, tail, letters, _⟩ := exists_of_isIdentifier identifier
    simp [letters]
  | colons => decide
  | character known => simp

theorem Piece.letters_ne_nil (piece : Piece) : piece.letters ≠ [] := by
  cases piece with
  | blank c blank => simp [letters]
  | word kind text spelling => exact spelling.toList_ne_nil

theorem isIdentifierChar_of_isBlank {c : Char} (blank : Text.isBlank c = true) :
    isIdentifierChar c = false := by
  rw [isIdentifierChar, Bool.or_eq_false_iff]
  constructor
  · by_contra start
    rw [Bool.not_eq_false] at start
    simp [isBlank_of_isIdentifierStart start] at blank
  · by_contra digit
    have bounds : '0' ≤ c ∧ c ≤ '9' := by simpa using digit
    have code : 48 ≤ c.toNat ∧ c.toNat ≤ 57 := ⟨Char.le_def.mp bounds.1, Char.le_def.mp bounds.2⟩
    simp only [Text.isBlank, Text.isWhiteSpace, Bool.or_eq_true, Bool.and_eq_true,
      decide_eq_true_eq, beq_iff_eq] at blank
    omega

theorem TokenKind.ofChar?_apart {c : Char} {kind : TokenKind} (known : ofChar? c = some kind) :
    Text.isBlank c = false ∧ isIdentifierChar c = false := by
  unfold ofChar? at known
  split at known <;> cases known <;> decide

theorem isIdentifierChar_of_mem {text : String} (identifier : isIdentifier text = true) :
    ∀ c ∈ text.toList, isIdentifierChar c = true := by
  obtain ⟨first, tail, letters, start, prolonging⟩ := exists_of_isIdentifier identifier
  rw [letters, List.forall_mem_cons]
  exact ⟨by simp [isIdentifierChar, start], prolonging⟩

/-- A word holds no blanks. -/
theorem Spelling.isBlank_eq_false {kind : TokenKind} {text : String}
    (spelling : Spelling kind text) : ∀ c ∈ text.toList, Text.isBlank c = false := by
  cases spelling with
  | identifier identifier =>
    intro c member
    by_contra blank
    rw [Bool.not_eq_false] at blank
    have letter := isIdentifierChar_of_mem identifier c member
    simp [isIdentifierChar_of_isBlank blank] at letter
  | colons => simp [show Text.isBlank ':' = false by decide]
  | character known => simp [(TokenKind.ofChar?_apart known).1]

/-- Every word but an identifier ends an identifier in front of it. -/
theorem Spelling.apart {kind : TokenKind} {text : String} (spelling : Spelling kind text)
    (other : kind ≠ .identifier) (rest : List Char) : Apart (text.toList ++ rest) := by
  cases spelling with
  | identifier => exact absurd rfl other
  | colons => exact apart_cons (by decide) _
  | character known =>
    simpa using apart_cons (TokenKind.ofChar?_apart known).2 rest

/-- A word of more than one letter is an identifier or a pair of colons. -/
theorem Spelling.eq_of_one_lt {kind : TokenKind} {text : String} (spelling : Spelling kind text)
    (long : 1 < text.toList.length) : kind = .identifier ∨ text = "::" := by
  cases spelling with
  | identifier => exact .inl rfl
  | colons => exact .inr rfl
  | character known => simp at long

/-- The word of a letter that is neither a blank nor a letter of identifiers. -/
theorem Piece.eq_of_mem {piece : Piece} {c : Char} (member : c ∈ piece.letters)
    (ordinary : Text.isBlank c = false) (apart : isIdentifierChar c = false) :
    (c = ':' ∧ piece = .word .separator "::" .colons) ∨
      ∃ kind known, piece = .word kind c.toString (.character known) := by
  cases piece with
  | blank other blank =>
    obtain rfl : c = other := by simpa [letters] using member
    simp [blank] at ordinary
  | word kind text spelling =>
    cases spelling with
    | identifier identifier =>
      simp [isIdentifierChar_of_mem identifier c member] at apart
    | colons => exact .inl ⟨by simpa [letters] using member, rfl⟩
    | @character other _ known =>
      obtain rfl : c = other := by simpa [letters] using member
      exact .inr ⟨kind, known, rfl⟩

theorem Piece.eq_point {piece : Piece} (member : '.' ∈ piece.letters) :
    piece = .word .separator ('.').toString (.character rfl) := by
  rcases piece.eq_of_mem member (by decide) (by decide) with ⟨other, _⟩ | ⟨kind, known, rfl⟩
  · cases other
  · cases known
    rfl

theorem Piece.eq_colons {piece : Piece} (member : ':' ∈ piece.letters) :
    piece = .word .separator "::" .colons := by
  rcases piece.eq_of_mem member (by decide) (by decide) with ⟨_, same⟩ | ⟨kind, known, _⟩
  · exact same
  · cases known

/-- A piece is scanned to its token wherever the text behind does not prolong it. -/
theorem Piece.scan_append {piece : Piece} {rest : List Char} (ends : piece.EndsBefore rest)
    (column : Nat) :
    scan column (piece.letters ++ rest) =
      (scan (column + piece.letters.length) rest).map (piece.tokens column ++ ·) := by
  cases piece with
  | blank c blank =>
    have scanned := scan_blank column rest blank
    rcases outcome : scan (column + 1) rest with unexpected | others <;>
      simp [letters, Piece.tokens, scanned, outcome, Except.map]
  | word kind text spelling =>
    cases spelling with
    | identifier identifier =>
      obtain ⟨c, tail, spelled, start, prolonging⟩ := exists_of_isIdentifier identifier
      have apart : Apart rest := ends rfl
      have word : text = String.ofList (c :: tail) := by rw [← spelled, String.ofList_toList]
      simp only [letters, tokens, spelled, List.cons_append]
      rw [scan_identifier column _ start, List.takeWhile_append_of_pos prolonging,
        List.dropWhile_append_of_pos prolonging, apart.takeWhile_eq, apart.dropWhile_eq,
        List.append_nil, word, List.length_cons, Nat.add_assoc, Nat.add_comm 1]
      rfl
    | colons => exact scan_colons column rest
    | character known =>
      simpa [letters, tokens] using scan_character column rest known

/-- A piece begins here: a blank, an identifier, two colons or a character that is a token. -/
inductive Begins : List Char → Prop where
  | blank {c : Char} (rest : List Char) : Text.isBlank c = true → Begins (c :: rest)
  | identifier {c : Char} (rest : List Char) : isIdentifierStart c = true → Begins (c :: rest)
  | colons (rest : List Char) : Begins (':' :: ':' :: rest)
  | character {c : Char} (rest : List Char) :
      c ∈ ['.', '<', '>', '(', ')', ','] → Begins (c :: rest)

/-- Cutting pieces off a text, from left to right, leaves a rest. -/
inductive Cut : List Char → List Piece → List Char → Prop where
  | nil (text : List Char) : Cut text [] text
  | cons {piece : Piece} {text rest : List Char} {pieces : List Piece} :
      piece.EndsBefore text → Cut text pieces rest →
      Cut (piece.letters ++ text) (piece :: pieces) rest

theorem mem_of_ofChar? {c : Char} {kind : TokenKind} (known : TokenKind.ofChar? c = some kind) :
    c ∈ ['.', '<', '>', '(', ')', ','] := by
  unfold TokenKind.ofChar? at known
  split at known <;> cases known <;> decide

theorem exists_ofChar?_of_mem {c : Char} (member : c ∈ ['.', '<', '>', '(', ')', ',']) :
    ∃ kind, TokenKind.ofChar? c = some kind := by
  simp only [List.mem_cons, List.not_mem_nil, or_false] at member
  rcases member with rfl | rfl | rfl | rfl | rfl | rfl <;> exact ⟨_, rfl⟩

/-- Where no piece begins, scanning stops. -/
theorem scan_of_not_begins {c : Char} {rest : List Char} (stuck : ¬ Begins (c :: rest))
    (column : Nat) : scan column (c :: rest) = .error ⟨c, column⟩ := by
  have noBlank : Text.isBlank c ≠ true := fun blank => stuck (.blank rest blank)
  have noStart : isIdentifierStart c ≠ true := fun start => stuck (.identifier rest start)
  have noColons : ¬ (c = ':' ∧ rest.head? = some ':') := by
    intro colons
    obtain ⟨rfl, next⟩ := colons
    obtain ⟨behind, rfl⟩ := List.head?_eq_some_iff.mp next
    exact stuck (.colons behind)
  have unknown : TokenKind.ofChar? c = none := by
    by_contra known
    obtain ⟨kind, known⟩ := Option.ne_none_iff_exists'.mp known
    exact stuck (.character rest (mem_of_ofChar? known))
  rw [scan.eq_def column (c :: rest)]
  dsimp only
  rw [if_neg noBlank, if_neg noStart, if_neg noColons, unknown]

namespace Cut

variable {text rest : List Char} {pieces : List Piece}

theorem text_eq (cut : Cut text pieces rest) : text = Piece.lettersOf pieces ++ rest := by
  induction cut with
  | nil text => rfl
  | cons ends cut inductionHypothesis =>
    rw [Piece.lettersOf_cons, List.append_assoc, ← inductionHypothesis]

theorem letters_eq (cut : Cut text pieces []) : Piece.lettersOf pieces = text := by
  rw [cut.text_eq, List.append_nil]

/-- The pieces are scanned to their tokens, and scanning goes on with the rest. -/
theorem scan_eq (cut : Cut text pieces rest) (column : Nat) :
    scan column text = (scan (column + (Piece.lettersOf pieces).length) rest).map
      (Piece.tokensFrom column pieces ++ ·) := by
  induction cut generalizing column with
  | nil text => rcases outcome : scan column text <;> simp [Piece.tokensFrom, outcome, Except.map]
  | @cons piece text rest pieces ends cut inductionHypothesis =>
    rw [Piece.scan_append ends, inductionHypothesis, Piece.lettersOf_cons, List.length_append,
      ← Nat.add_assoc]
    rcases scan (column + piece.letters.length + (Piece.lettersOf pieces).length) rest <;>
      simp [Piece.tokensFrom, Except.map]

theorem append {middle : List Char} {others : List Piece} (cut : Cut text pieces middle)
    (further : Cut middle others rest) : Cut text (pieces ++ others) rest := by
  induction cut with
  | nil text => exact further
  | cons ends cut inductionHypothesis => exact .cons ends (inductionHypothesis further)

/-- A cut can be made in two steps. -/
theorem of_append {others : List Piece} (cut : Cut text (pieces ++ others) rest) :
    Cut text pieces (Piece.lettersOf others ++ rest) ∧
      Cut (Piece.lettersOf others ++ rest) others rest := by
  induction pieces generalizing text with
  | nil =>
    rw [List.nil_append] at cut
    rw [← cut.text_eq]
    exact ⟨.nil text, cut⟩
  | cons piece pieces inductionHypothesis =>
    cases cut with
    | cons ends cut =>
      obtain ⟨first, second⟩ := inductionHypothesis cut
      exact ⟨.cons ends first, second⟩

/-- Behind each piece stand the letters of those after it, and they do not prolong it. -/
theorem endsBefore {front back : List Piece} {piece : Piece}
    (cut : Cut text (front ++ piece :: back) rest) :
    piece.EndsBefore (Piece.lettersOf back ++ rest) := by
  have second := cut.of_append.2
  generalize Piece.lettersOf (piece :: back) ++ rest = whole at second
  cases second with
  | cons ends behind =>
    rw [behind.text_eq] at ends
    exact ends

/-- The same pieces are cut off in front of another rest that does not prolong the last one. -/
theorem in_front_of (cut : Cut text pieces rest) {other : List Char} (apart : Apart other) :
    Cut (Piece.lettersOf pieces ++ other) pieces other := by
  induction cut with
  | nil text => exact .nil other
  | @cons piece text rest pieces ends cut inductionHypothesis =>
    rw [Piece.lettersOf_cons, List.append_assoc]
    refine .cons ?_ inductionHypothesis
    rw [cut.text_eq] at ends
    cases pieces with
    | nil => cases piece <;> simp_all [Piece.EndsBefore]
    | cons next pieces =>
      -- The letters of the next piece stand behind this one, whatever the rest is.
      obtain ⟨c, tail, letters⟩ := List.exists_cons_of_ne_nil next.letters_ne_nil
      cases piece <;> simp_all [Piece.EndsBefore, Apart]

end Cut

/-- A text is cut as long as a piece begins. -/
theorem exists_cut (text : List Char) : ∃ pieces rest, Cut text pieces rest ∧ ¬ Begins rest := by
  -- The column is of no account here; the recursion of the scan gives the pieces.
  induction (0 : Nat), text using scan.induct with
  | case1 column => exact ⟨[], [], .nil [], by rintro ⟨⟩⟩
  | case2 column c behind blank inductionHypothesis =>
    obtain ⟨pieces, rest, cut, stuck⟩ := inductionHypothesis
    have ends : (Piece.blank c blank).EndsBefore behind := trivial
    exact ⟨.blank c blank :: pieces, rest, .cons ends cut, stuck⟩
  | case3 column c behind noBlank start tail inductionHypothesis =>
    obtain ⟨pieces, rest, cut, stuck⟩ := inductionHypothesis
    have ends : (Piece.word .identifier _ (.identifier (isIdentifier_takeWhile start behind))
        ).EndsBefore (behind.dropWhile isIdentifierChar) := by
      intro _ other first
      have := List.head?_dropWhile_not isIdentifierChar behind
      rw [Option.mem_def.mp first] at this
      simpa using this
    have cut := Cut.cons ends cut
    simp only [Piece.letters, String.toList_ofList, List.cons_append,
      List.takeWhile_append_dropWhile] at cut
    exact ⟨_, rest, cut, stuck⟩
  | case4 column c behind noBlank noStart colons inductionHypothesis =>
    obtain ⟨pieces, rest, cut, stuck⟩ := inductionHypothesis
    obtain ⟨rfl, next⟩ := colons
    obtain ⟨behind, rfl⟩ := List.head?_eq_some_iff.mp next
    have ends : (Piece.word .separator "::" .colons).EndsBefore behind := by rintro ⟨⟩
    exact ⟨_, rest, .cons ends cut, stuck⟩
  | case5 column c behind noBlank noStart noColons kind known inductionHypothesis =>
    obtain ⟨pieces, rest, cut, stuck⟩ := inductionHypothesis
    have ends : (Piece.word kind c.toString (.character known)).EndsBefore behind :=
      fun identifier => absurd identifier (TokenKind.ofChar?_ne known).1
    have cut := Cut.cons ends cut
    exact ⟨_, rest, by simpa [Piece.letters] using cut, stuck⟩
  | case6 column c behind noBlank noStart noColons unknown =>
    refine ⟨[], c :: behind, .nil _, ?_⟩
    intro begins
    cases begins with
    | blank _ blank => exact noBlank blank
    | identifier _ start => exact noStart start
    | colons rest => exact noColons ⟨rfl, rfl⟩
    | character _ member =>
      obtain ⟨kind, known⟩ := exists_ofChar?_of_mem member
      simp [unknown] at known

section Outcome

variable {column : Nat} {text : List Char}

theorem Cut.scan_of_complete {pieces : List Piece} (cut : Cut text pieces []) :
    scan column text = .ok (Piece.tokensFrom column pieces) := by
  rw [cut.scan_eq, scan_nil]
  simp [Except.map]

theorem Cut.scan_of_stuck {pieces : List Piece} {c : Char} {rest : List Char}
    (cut : Cut text pieces (c :: rest)) (stuck : ¬ Begins (c :: rest)) :
    scan column text = .error ⟨c, column + (Piece.lettersOf pieces).length⟩ := by
  rw [cut.scan_eq, scan_of_not_begins stuck]
  rfl

/-- A text has tokens when it is cut as a whole, and these are the words of its pieces. -/
theorem scan_eq_ok_iff {tokens : List Token} :
    scan column text = .ok tokens ↔
      ∃ pieces, Cut text pieces [] ∧ Piece.tokensFrom column pieces = tokens := by
  constructor
  · intro scanned
    obtain ⟨pieces, _ | ⟨c, rest⟩, cut, stuck⟩ := exists_cut text
    · rw [cut.scan_of_complete] at scanned
      exact ⟨pieces, cut, Except.ok.inj scanned⟩
    · rw [cut.scan_of_stuck stuck] at scanned
      cases scanned
  · intro divided
    obtain ⟨pieces, cut, rfl⟩ := divided
    exact cut.scan_of_complete

/-- Scanning fails at the first place that is reached and where no piece begins. -/
theorem scan_eq_error_iff {unexpected : Unexpected} :
    scan column text = .error unexpected ↔
      ∃ pieces c rest, Cut text pieces (c :: rest) ∧ ¬ Begins (c :: rest) ∧
        unexpected = ⟨c, column + (Piece.lettersOf pieces).length⟩ := by
  constructor
  · intro failed
    obtain ⟨pieces, _ | ⟨c, rest⟩, cut, stuck⟩ := exists_cut text
    · rw [cut.scan_of_complete] at failed
      cases failed
    · rw [cut.scan_of_stuck stuck] at failed
      exact ⟨pieces, c, rest, cut, stuck, (Except.error.inj failed).symm⟩
  · intro reached
    obtain ⟨pieces, c, rest, cut, stuck, rfl⟩ := reached
    exact cut.scan_of_stuck stuck

end Outcome

end SchemaGrammar.TypeRef
