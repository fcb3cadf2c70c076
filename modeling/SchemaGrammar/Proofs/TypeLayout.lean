import Mathlib.Data.List.Chain
import Mathlib.Logic.Relation
import SchemaGrammar.Proofs.TypeErrors
import SchemaGrammar.Proofs.TypePieces
set_option autoImplicit false

/-!
The layout of a written type does not matter, nor does the spelling of its separators. The parser
makes use of the kind of a token and of the word of an identifier, its `meaning`, and of nothing
else (`Derivation.exists_of_meanings`). In a sentence no two identifiers stand next to each other,
and no two separators (`Derivation.ne_of_adjacent`): so blanks between tokens can all be left out
without making one name of two, and every pair of colons is one separator.
-/

namespace SchemaGrammar.TypeRef

/-- What counts in a token: neither where it stands nor how a separator is spelled. -/
def Token.meaning (token : Token) : TokenKind × String :=
  (token.kind, if token.kind = .separator then "" else token.text)

section Meanings

variable {tokens : List Token}

/-- A token in the place of another one with the same meaning. -/
theorem Lexeme.exists_of_meaning {kind : TokenKind} (lexeme : Lexeme kind) {token : Token}
    (same : token.meaning = lexeme.val.meaning) :
    ∃ other : Lexeme kind, other.val = token ∧
      (kind ≠ .separator → other.val.text = lexeme.val.text) := by
  obtain ⟨kinds, words⟩ := Prod.mk.inj same
  refine ⟨⟨token, kinds.trans lexeme.property⟩, rfl, ?_⟩
  intro ordinary
  have ordinary' : token.kind ≠ .separator := by rw [kinds, lexeme.property]; exact ordinary
  rwa [if_neg ordinary', if_neg (kinds ▸ ordinary')] at words

theorem Path.exists_of_moreMeanings {more : List (Lexeme .separator × Lexeme .identifier)}
    (same : tokens.map Token.meaning = (moreTokens more).map Token.meaning) :
    ∃ others, moreTokens others = tokens ∧
      (others.map fun (_, segment) => segment.val.text) =
        more.map fun (_, segment) => segment.val.text := by
  induction more generalizing tokens with
  | nil => exact ⟨[], (List.map_eq_nil_iff.mp same).symm, rfl⟩
  | cons step more inductionHypothesis =>
    obtain ⟨separator, segment⟩ := step
    obtain ⟨first, rest, rfl, sameSeparator, sameRest⟩ := List.map_eq_cons_iff.mp same
    obtain ⟨second, rest, rfl, sameSegment, sameMore⟩ := List.map_eq_cons_iff.mp sameRest
    obtain ⟨separator', rfl, _⟩ := separator.exists_of_meaning sameSeparator
    obtain ⟨segment', rfl, named⟩ := segment.exists_of_meaning sameSegment
    obtain ⟨others, rfl, names⟩ := inductionHypothesis sameMore
    refine ⟨(separator', segment') :: others, rfl, ?_⟩
    simp only [List.map_cons, names, named (by decide : TokenKind.identifier ≠ .separator)]

theorem Path.exists_of_meanings (path : Path)
    (same : tokens.map Token.meaning = path.tokens.map Token.meaning) :
    ∃ other : Path, other.tokens = tokens ∧ other.names = path.names := by
  obtain ⟨first, more⟩ := path
  obtain ⟨token, rest, rfl, sameFirst, sameMore⟩ := List.map_eq_cons_iff.mp same
  obtain ⟨first', rfl, named⟩ := first.exists_of_meaning sameFirst
  obtain ⟨others, rfl, names⟩ := exists_of_moreMeanings sameMore
  exact ⟨⟨first', others⟩, rfl, by rw [Path.names, Path.names, names, named (by decide)]⟩

/-- A bracketed part of a sentence, taken apart. -/
theorem exists_of_bracketed {kind closing : TokenKind} {opening : Lexeme kind}
    {inside : List Token} {last : Lexeme closing}
    (same : tokens.map Token.meaning =
      (opening.val :: (inside ++ [last.val])).map Token.meaning) :
    ∃ (opening' : Lexeme kind) (inside' : List Token) (last' : Lexeme closing),
      tokens = opening'.val :: (inside' ++ [last'.val]) ∧
        inside'.map Token.meaning = inside.map Token.meaning := by
  obtain ⟨first, rest, rfl, sameOpening, sameRest⟩ := List.map_eq_cons_iff.mp same
  obtain ⟨opening', rfl, _⟩ := opening.exists_of_meaning sameOpening
  rw [List.map_append] at sameRest
  obtain ⟨inside', behind, rfl, sameInside, sameBehind⟩ := List.map_eq_append_iff.mp sameRest
  obtain ⟨token, nothing, rfl, sameLast, empty⟩ := List.map_eq_cons_iff.mp sameBehind
  obtain ⟨last', rfl, _⟩ := last.exists_of_meaning sameLast
  rw [List.map_eq_nil_iff.mp empty]
  exact ⟨opening', inside', last', rfl, sameInside⟩

end Meanings

mutual

/-- Tokens that mean the same as a sentence are a sentence for the same type. -/
theorem Derivation.exists_of_meanings : ∀ (derivation : Derivation) {tokens : List Token},
    tokens.map Token.meaning = derivation.tokens.map Token.meaning →
    ∃ other : Derivation, other.tokens = tokens ∧ other.type = derivation.type
  | .unit opening closing, tokens, same => by
    have bracketed : tokens.map Token.meaning =
      (opening.val :: ([] ++ [closing.val])).map Token.meaning := same
    obtain ⟨opening', inside, closing', rfl, empty⟩ := exists_of_bracketed bracketed
    rw [List.map_eq_nil_iff.mp empty]
    exact ⟨.unit opening' closing', rfl, rfl⟩
  | .tuple opening members closing, tokens, same => by
    obtain ⟨opening', inside, closing', rfl, sameMembers⟩ := exists_of_bracketed same
    obtain ⟨members', rfl, types⟩ := Members.exists_of_meanings members sameMembers
    exact ⟨.tuple opening' members' closing', rfl, by rw [Derivation.type, types]; rfl⟩
  | .name path, tokens, same => by
    obtain ⟨path', rfl, names⟩ := path.exists_of_meanings same
    exact ⟨.name path', rfl, by rw [Derivation.type, names]; rfl⟩
  | .generic path opening members closing, tokens, same => by
    rw [Derivation.tokens, List.map_append] at same
    obtain ⟨front, back, rfl, samePath, sameBracket⟩ := List.map_eq_append_iff.mp same
    obtain ⟨path', rfl, names⟩ := path.exists_of_meanings samePath
    obtain ⟨opening', inside, closing', rfl, sameMembers⟩ := exists_of_bracketed sameBracket
    obtain ⟨members', rfl, types⟩ := Members.exists_of_meanings members sameMembers
    exact ⟨.generic path' opening' members' closing', rfl,
      by rw [Derivation.type, names, types]; rfl⟩

theorem Members.exists_of_meanings : ∀ (members : Members) {tokens : List Token},
    tokens.map Token.meaning = members.tokens.map Token.meaning →
    ∃ others : Members, others.tokens = tokens ∧ others.types = members.types
  | .last member, tokens, same => by
    obtain ⟨member', rfl, type⟩ := Derivation.exists_of_meanings member same
    exact ⟨.last member', rfl, by rw [Members.types, type]; rfl⟩
  | .more member comma rest, tokens, same => by
    rw [Members.tokens, List.map_append] at same
    obtain ⟨front, back, rfl, sameMember, sameBack⟩ := List.map_eq_append_iff.mp same
    obtain ⟨token, others, rfl, sameComma, sameRest⟩ := List.map_eq_cons_iff.mp sameBack
    obtain ⟨member', rfl, type⟩ := Derivation.exists_of_meanings member sameMember
    obtain ⟨comma', rfl, _⟩ := comma.exists_of_meaning sameComma
    obtain ⟨rest', rfl, types⟩ := Members.exists_of_meanings rest sameRest
    exact ⟨.more member' comma' rest', rfl, by rw [Members.types, type, types]; rfl⟩

end

/-- No identifier goes on behind a complete type. -/
theorem State.afterType_ne_ok {frames : List Frame} {type : TypeRef} {token : Token}
    (identifier : token.kind = .identifier) (state : State) :
    afterType frames type token ≠ .ok state := by
  rcases frames with _ | ⟨_ | _, outer⟩ <;> simp [afterType, identifier, Frame.closing]

/-- Behind an identifier no other one goes on, and behind a separator no other one. -/
theorem State.ne_of_next {first second : Token} {state middle last : State}
    (stepped : state.next first = .ok middle) (further : middle.next second = .ok last)
    (same : first.kind = second.kind) : first.kind ≠ .identifier ∧ first.kind ≠ .separator := by
  have follows := follows_of_next stepped
  constructor
  · intro identifier
    cases follows with
    | name =>
      simp only [next, ← same, identifier, reduceCtorEq, if_false] at further
      exact afterType_ne_ok (same ▸ identifier) last further
    | segment kind | tuple kind | arguments kind | member kind => simp [identifier] at kind
    | complete kind => simp [identifier] at kind
  · intro separator
    cases follows with
    | segment => simp [next, ← same, separator] at further
    | name kind | tuple kind | arguments kind | member kind => simp [separator] at kind
    | complete kind => simp [separator] at kind

/-- Kinds of tokens that may stand next to each other in a sentence: not two identifiers, and not
two separators. -/
def TokenKind.MayPrecede (kind next : TokenKind) : Prop :=
  kind = next → kind ≠ .identifier ∧ kind ≠ .separator

theorem Derivation.isChain_tokens (derivation : Derivation) :
    derivation.tokens.IsChain fun token next => token.kind.MayPrecede next.kind := by
  obtain ⟨state, reached, _⟩ := derivation.after_tokens [] true
  rw [List.isChain_iff_forall_rel_of_append_cons_cons]
  intro first second front back parts same
  rw [parts, State.after_append_eq_ok_iff] at reached
  obtain ⟨before, _, reached⟩ := reached
  rw [← List.singleton_append, State.after_append_eq_ok_iff] at reached
  obtain ⟨middle, stepped, reached⟩ := reached
  rw [← List.singleton_append, State.after_append_eq_ok_iff] at reached
  obtain ⟨last, further, _⟩ := reached
  rw [State.after_singleton_eq_ok_iff] at stepped further
  exact State.ne_of_next stepped further same

namespace Piece

/-- What counts in a piece; a blank does not count. -/
def meaning? : Piece → Option (TokenKind × String)
  | blank _ _ => none
  | word kind text _ => some (Token.meaning ⟨kind, text, 0⟩)

def meanings (pieces : List Piece) : List (TokenKind × String) := pieces.filterMap meaning?

@[simp]
theorem meanings_cons_word (kind : TokenKind) (text : String) (spelling : Spelling kind text)
    (rest : List Piece) :
    meanings (word kind text spelling :: rest) =
      Token.meaning ⟨kind, text, 0⟩ :: meanings rest := rfl

@[simp]
theorem meanings_append (front back : List Piece) :
    meanings (front ++ back) = meanings front ++ meanings back :=
  List.filterMap_append

theorem map_meaning_tokensFrom (column : Nat) (pieces : List Piece) :
    (tokensFrom column pieces).map Token.meaning = meanings pieces := by
  induction pieces generalizing column with
  | nil => rfl
  | cons piece pieces inductionHypothesis =>
    rw [tokensFrom, List.map_append, inductionHypothesis]
    cases piece <;> rfl

end Piece

/-- A sentence for a type has these meanings. -/
def Means (meanings : List (TokenKind × String)) (type : TypeRef) : Prop :=
  ∃ derivation : Derivation,
    derivation.tokens.map Token.meaning = meanings ∧ derivation.type = type

/-- Which type a text writes depends on the meanings of its pieces alone. -/
theorem parse_eq_ok_iff_cut {text : String} {type : TypeRef} :
    parse text = .ok type ↔
      ∃ pieces, Cut text.toList pieces [] ∧ Means (Piece.meanings pieces) type := by
  simp only [parse_eq_ok_iff_run, State.run_eq_ok_iff, scan_eq_ok_iff]
  constructor
  · intro parsed
    obtain ⟨_, ⟨pieces, cut, rfl⟩, derivation, written, typed⟩ := parsed
    exact ⟨pieces, cut, derivation, by rw [written, Piece.map_meaning_tokensFrom], typed⟩
  · intro divided
    obtain ⟨pieces, cut, derivation, same, typed⟩ := divided
    rw [← Piece.map_meaning_tokensFrom 1] at same
    obtain ⟨other, written, typed'⟩ := derivation.exists_of_meanings same.symm
    exact ⟨_, ⟨pieces, cut, rfl⟩, other, written, typed'.trans typed⟩

theorem Means.isChain {meanings : List (TokenKind × String)} {type : TypeRef}
    (means : Means meanings type) :
    meanings.IsChain fun meaning next => meaning.1.MayPrecede next.1 := by
  obtain ⟨derivation, rfl, _⟩ := means
  exact (List.isChain_map _).mpr derivation.isChain_tokens

section Edits

variable {text : List Char} {pieces before behind : List Piece}

/-- Without its blanks a text has the same words, if no two identifiers stand next to each other. -/
theorem Cut.exists_without_blanks (cut : Cut text pieces [])
    (chain : (Piece.meanings pieces).IsChain fun meaning next => meaning.1.MayPrecede next.1) :
    ∃ words, Cut (text.filter (!Text.isBlank ·)) words [] ∧
      Piece.meanings words = Piece.meanings pieces := by
  induction pieces generalizing text with
  | nil =>
    cases cut
    exact ⟨[], .nil [], rfl⟩
  | cons piece pieces inductionHypothesis =>
    cases cut with
    | @cons _ text _ _ ends cut =>
      cases piece with
      | blank c blank =>
        obtain ⟨words, cutWords, same⟩ := inductionHypothesis cut chain
        exact ⟨words, by simpa [Piece.letters, blank] using cutWords, same⟩
      | word kind word spelling =>
        obtain ⟨words, cutWords, same⟩ := inductionHypothesis cut chain.tail
        rw [Piece.meanings_cons_word, ← same] at chain
        have kept : word.toList.filter (!Text.isBlank ·) = word.toList := by
          simpa using spelling.isBlank_eq_false
        refine ⟨.word kind word spelling :: words, ?_, by simp [same]⟩
        rw [Piece.letters, List.filter_append, kept]
        suffices ends : (Piece.word kind word spelling).EndsBefore
            (text.filter (!Text.isBlank ·)) from .cons ends cutWords
        -- An identifier is not prolonged now either: the next word, if any, is of another kind.
        intro identifier
        rw [← cutWords.letters_eq]
        rcases words with _ | ⟨_ | ⟨next, other, spelling'⟩, words⟩
        · exact apart_nil
        · exact apart_cons (isIdentifierChar_of_isBlank ‹_›) _
        · refine spelling'.apart ?_ _
          intro identifier'
          have distinct := (List.isChain_cons_cons.mp chain).1
          exact (distinct (identifier.trans identifier'.symm)).1 identifier

/-- One separator for another one. -/
theorem Cut.replace {word word' : String} {spelling : Spelling .separator word}
    (spelling' : Spelling .separator word')
    (cut : Cut text (before ++ .word .separator word spelling :: behind) []) :
    Cut (Piece.lettersOf before ++ (word'.toList ++ Piece.lettersOf behind))
      (before ++ .word .separator word' spelling' :: behind) [] := by
  obtain ⟨first, second⟩ := cut.of_append
  have front := first.in_front_of (spelling'.apart (by decide) (Piece.lettersOf behind))
  refine front.append ?_
  have ends : (Piece.word .separator word' spelling').EndsBefore (Piece.lettersOf behind) := by
    rintro ⟨⟩
  generalize Piece.lettersOf _ ++ [] = whole at second
  cases second with
  | cons _ cutBehind =>
    rw [cutBehind.letters_eq] at ends ⊢
    exact .cons ends cutBehind

theorem exists_cut_blanks {blanks : List Char} (blank : ∀ c ∈ blanks, Text.isBlank c = true)
    (rest : List Char) :
    ∃ pieces, Cut (blanks ++ rest) pieces rest ∧ Piece.meanings pieces = [] := by
  induction blanks with
  | nil => exact ⟨[], .nil rest, rfl⟩
  | cons c blanks inductionHypothesis =>
    obtain ⟨first, others⟩ := List.forall_mem_cons.mp blank
    obtain ⟨pieces, cut, nothing⟩ := inductionHypothesis others
    have ends : (Piece.blank c first).EndsBefore (blanks ++ rest) := trivial
    exact ⟨.blank c first :: pieces, .cons ends cut, nothing⟩

/-- Blanks between two pieces. -/
theorem Cut.insert {blanks : List Char} (cut : Cut text (before ++ behind) [])
    (blank : ∀ c ∈ blanks, Text.isBlank c = true) :
    ∃ pieces, Cut (Piece.lettersOf before ++ (blanks ++ Piece.lettersOf behind)) pieces [] ∧
      Piece.meanings pieces = Piece.meanings (before ++ behind) := by
  obtain ⟨first, second⟩ := cut.of_append
  rw [List.append_nil] at first second
  rcases blanks with _ | ⟨c, blanks⟩
  · refine ⟨before ++ behind, ?_, rfl⟩
    rw [List.nil_append, ← first.text_eq]
    exact first.append second
  · obtain ⟨between, cutBetween, nothing⟩ := exists_cut_blanks blank (Piece.lettersOf behind)
    have ends : Apart (c :: blanks ++ Piece.lettersOf behind) :=
      apart_cons (isIdentifierChar_of_isBlank (blank c (by simp))) _
    refine ⟨before ++ (between ++ behind), ?_, by simp [nothing]⟩
    exact (first.in_front_of ends).append (cutBetween.append second)

/-- A point stands in a text only as a separator. -/
theorem Cut.exists_of_point {front back : List Char} (cut : Cut (front ++ '.' :: back) pieces []) :
    ∃ before behind, pieces = before ++ .word .separator ('.').toString (.character rfl) :: behind ∧
      Piece.lettersOf before = front ∧ Piece.lettersOf behind = back := by
  obtain ⟨before, piece, behind, first, last, rfl, own, rfl, rfl⟩ :=
    Piece.exists_of_lettersOf_eq cut.letters_eq
  have member : '.' ∈ piece.letters := by simp [own]
  obtain rfl := Piece.eq_point member
  rcases first with _ | ⟨d, first⟩
  · obtain rfl : last = [] := by simpa [Piece.letters] using own
    exact ⟨before, behind, rfl, by simp, by simp⟩
  · simp [Piece.letters] at own

/-- Two colons stand next to each other only in one separator, for no two separators do so. -/
theorem Cut.exists_of_colons {front back : List Char}
    (cut : Cut (front ++ ':' :: ':' :: back) pieces [])
    (chain : (Piece.meanings pieces).IsChain fun meaning next => meaning.1.MayPrecede next.1) :
    ∃ before behind, pieces = before ++ .word .separator "::" .colons :: behind ∧
      Piece.lettersOf before = front ∧ Piece.lettersOf behind = back := by
  obtain ⟨before, piece, behind, first, last, rfl, own, rfl, rest⟩ :=
    Piece.exists_of_lettersOf_eq cut.letters_eq
  have member : ':' ∈ piece.letters := by simp [own]
  obtain rfl := Piece.eq_colons member
  change [':', ':'] = first ++ ':' :: last at own
  rcases first with _ | ⟨d, first⟩
  · obtain rfl : [':'] = last := (List.cons.inj own).2
    exact ⟨before, behind, rfl, by simp, (List.cons.inj rest).2.symm⟩
  · -- The first colon would be the second one of a separator with another one right behind it.
    exfalso
    obtain rfl : [] = last := by
      have length := congrArg List.length own
      exact (List.length_eq_zero_iff.mp (by simp at length; omega)).symm
    rw [List.nil_append] at rest
    rcases behind with _ | ⟨next, behind⟩
    · simp at rest
    · have member : ':' ∈ next.letters := by
        obtain ⟨c, tail, letters⟩ := List.exists_cons_of_ne_nil next.letters_ne_nil
        rw [Piece.lettersOf_cons, letters] at rest
        obtain ⟨rfl, _⟩ := List.cons.inj rest
        simp [letters]
      obtain rfl := Piece.eq_colons member
      rw [Piece.meanings_append] at chain
      have distinct := List.isChain_iff_forall_rel_of_append_cons_cons.mp chain rfl
      exact (distinct rfl).2 rfl

end Edits

/-- A place between two characters of a text stands inside an identifier or a pair of colons. -/
def Inside (text : String) (place : Nat) : Prop :=
  ∃ tokens, tokenize text = .ok tokens ∧ ∃ token ∈ tokens,
    (token.kind = .identifier ∨ token.text = "::") ∧ token.column ≤ place ∧
      place + 1 < token.column + token.text.toList.length

/-- A change of the blanks in a text, or of the spelling of a separator. -/
inductive Respelled : String → String → Prop where
  | deleted (text : String) :
      Respelled text (String.ofList (text.toList.filter (!Text.isBlank ·)))
  | inserted (front blanks back : String) :
      (∀ c ∈ blanks.toList, Text.isBlank c = true) → ¬ Inside (front ++ back) front.toList.length →
      Respelled (front ++ back) (front ++ blanks ++ back)
  | colons (front back : String) : Respelled (front ++ "." ++ back) (front ++ "::" ++ back)
  | point (front back : String) : Respelled (front ++ "::" ++ back) (front ++ "." ++ back)

/-- A place that is not inside a word is one between two pieces. -/
theorem Cut.exists_of_not_inside {text : String} {pieces : List Piece} {front back : List Char}
    (cut : Cut text.toList pieces []) (parts : text.toList = front ++ back)
    (between : ¬ Inside text front.length) :
    ∃ before behind, pieces = before ++ behind ∧ Piece.lettersOf before = front ∧
      Piece.lettersOf behind = back := by
  have letters : Piece.lettersOf pieces = front ++ back := cut.letters_eq.trans parts
  rcases back with _ | ⟨c, back⟩
  · exact ⟨pieces, [], by simp, by simpa using letters, rfl⟩
  · obtain ⟨before, piece, behind, first, last, rfl, own, rfl, rfl⟩ :=
      Piece.exists_of_lettersOf_eq letters
    rcases first with _ | ⟨d, first⟩
    · exact ⟨before, piece :: behind, rfl, by simp, by simp [own]⟩
    · refine absurd ?_ between
      have length := congrArg List.length own
      simp only [List.length_append, List.length_cons] at length
      cases piece with
      | blank =>
        simp only [Piece.letters, List.length_singleton] at length
        omega
      | word kind word spelling =>
        simp only [Piece.letters] at length
        have scanned : scan 1 text.toList = .ok _ := cut.scan_of_complete
        refine ⟨_, tokenize_eq_ok_iff.mpr scanned,
          ⟨kind, word, 1 + (Piece.lettersOf before).length⟩, ?_,
          spelling.eq_of_one_lt (by omega), ?_⟩
        · rw [List.mem_append, Piece.mem_tokensFrom_iff]
          exact .inl ⟨before, kind, word, spelling, behind, rfl, rfl⟩
        · simp only [List.length_append, List.length_cons]
          omega

/-- One change keeps the type. -/
theorem parse_of_change {text other : String} {type : TypeRef} (parsed : parse text = .ok type)
    (changed : Respelled text other) : parse other = .ok type := by
  rw [parse_eq_ok_iff_cut] at parsed ⊢
  obtain ⟨pieces, cut, means⟩ := parsed
  cases changed with
  | deleted =>
    obtain ⟨words, cut', same⟩ := cut.exists_without_blanks means.isChain
    exact ⟨words, by rwa [String.toList_ofList], same ▸ means⟩
  | inserted front blanks back blank between =>
    obtain ⟨before, behind, rfl, first, second⟩ :=
      cut.exists_of_not_inside String.toList_append between
    obtain ⟨others, cut', same⟩ := cut.insert blank
    rw [first, second] at cut'
    exact ⟨others, by simpa using cut', same ▸ means⟩
  | colons front back =>
    rw [String.append_assoc, String.toList_append, String.toList_append] at cut
    obtain ⟨before, behind, rfl, first, second⟩ := Cut.exists_of_point cut
    have replaced := cut.replace .colons
    rw [first, second] at replaced
    exact ⟨_, by simpa using replaced, by simpa [Token.meaning] using means⟩
  | point front back =>
    rw [String.append_assoc, String.toList_append, String.toList_append] at cut
    obtain ⟨before, behind, rfl, first, second⟩ := Cut.exists_of_colons cut means.isChain
    have replaced := cut.replace (.character rfl : Spelling .separator ('.').toString)
    rw [first, second] at replaced
    exact ⟨_, by simpa using replaced, by simpa [Token.meaning] using means⟩

/-- Neither blanks between words nor the spelling of separators matter, however often they are
changed. -/
theorem parse_of_respelled {text other : String} {type : TypeRef} (parsed : parse text = .ok type)
    (changed : Relation.ReflTransGen Respelled text other) : parse other = .ok type := by
  induction changed with
  | refl => exact parsed
  | tail _ change inductionHypothesis => exact parse_of_change inductionHypothesis change

/-- A qualified argument written in three ways, the last with a blank that is no ASCII one. -/
theorem parse_of_respelled_qualified :
    parse "Vec<a::\u2003b>" = .ok ⟨["Vec"], [⟨["a", "b"], []⟩]⟩ := by
  have parsed : parse "Vec <a . b>" = .ok ⟨["Vec"], [⟨["a", "b"], []⟩]⟩ := by
    have scanned : scan 1 "Vec <a . b>".toList =
        .ok [⟨.identifier, "Vec", 1⟩, ⟨.openAngle, "<", 5⟩, ⟨.identifier, "a", 6⟩,
          ⟨.separator, ".", 8⟩, ⟨.identifier, "b", 10⟩, ⟨.closeAngle, ">", 11⟩] := by
      decide +kernel
    rw [parse, scanned]
    rfl
  have first : Respelled "Vec <a . b>" "Vec<a.b>" := .deleted "Vec <a . b>"
  have second : Respelled "Vec<a.b>" "Vec<a::b>" := .colons "Vec<a" "b>"
  have third : Respelled "Vec<a::b>" "Vec<a::\u2003b>" := by
    have scanned : scan 1 "Vec<a::b>".toList =
        .ok [⟨.identifier, "Vec", 1⟩, ⟨.openAngle, "<", 4⟩, ⟨.identifier, "a", 5⟩,
          ⟨.separator, "::", 6⟩, ⟨.identifier, "b", 8⟩, ⟨.closeAngle, ">", 9⟩] := by
      decide +kernel
    have blank : Text.isBlank '\u2003' = true := by decide
    refine .inserted "Vec<a::" "\u2003" "b>" (by simp [blank]) ?_
    rintro ⟨tokens, tokenized, inside⟩
    cases (tokenize_eq_ok_iff.mpr scanned).symm.trans tokenized
    revert inside
    decide
  exact parse_of_respelled parsed (.tail (.tail (.single first) second) third)

end SchemaGrammar.TypeRef
