import SchemaGrammar.Text.Blank
import SchemaGrammar.Text.Quoted
set_option autoImplicit false

/-!
The tokens of a written type: identifiers, path separators, brackets and commas. Blanks separate
tokens and are dropped. `scan` reads the longest identifier at each place and stops at the first
character that begins no token; `scan_nil` and the lemmas after it are its rules.
-/

namespace SchemaGrammar.TypeRef

inductive TokenKind where
  | identifier
  | separator
  | openAngle
  | closeAngle
  | openParen
  | closeParen
  | comma
  | ending
  deriving DecidableEq

/-- The name of a kind of token in messages. -/
def TokenKind.name : TokenKind → String
  | .identifier => "ident"
  | .separator => "path_sep"
  | .openAngle => "<"
  | .closeAngle => ">"
  | .openParen => "("
  | .closeParen => ")"
  | .comma => ","
  | .ending => "eof"

/-- The kind of a token that is this one character. -/
def TokenKind.ofChar? : Char → Option TokenKind
  | '.' => some .separator
  | '<' => some .openAngle
  | '>' => some .closeAngle
  | '(' => some .openParen
  | ')' => some .closeParen
  | ',' => some .comma
  | _ => none

/-- A token with the text it was read from and the column of its first character, counted from
one. -/
structure Token where
  kind : TokenKind
  text : String
  column : Nat
  deriving DecidableEq

/-- A character that begins no token. -/
structure Unexpected where
  character : Char
  column : Nat
  deriving DecidableEq

/-- Identifiers are made of ASCII letters, digits and underscores and start with no digit. -/
def isIdentifierStart (c : Char) : Bool :=
  ('a' ≤ c && c ≤ 'z') || ('A' ≤ c && c ≤ 'Z') || c == '_'

def isIdentifierChar (c : Char) : Bool :=
  isIdentifierStart c || ('0' ≤ c && c ≤ '9')

/-- Whether a text is one identifier. -/
def isIdentifier (text : String) : Bool :=
  match text.toList with
  | c :: rest => isIdentifierStart c && rest.all isIdentifierChar
  | [] => false

/-- Blanks begin no identifier. -/
theorem isBlank_of_isIdentifierStart {c : Char} (start : isIdentifierStart c = true) :
    Text.isBlank c = false := by
  have bounds : ('a' ≤ c ∧ c ≤ 'z') ∨ ('A' ≤ c ∧ c ≤ 'Z') ∨ c = '_' := by
    simpa [isIdentifierStart, or_assoc] using start
  have code : 65 ≤ c.toNat ∧ c.toNat ≤ 122 := by
    rcases bounds with ⟨low, high⟩ | ⟨low, high⟩ | rfl
    · exact ⟨Nat.le_trans (by decide) (Char.le_def.mp low), Char.le_def.mp high⟩
    · exact ⟨Char.le_def.mp low, Nat.le_trans (Char.le_def.mp high) (by decide)⟩
    · decide
  simp only [Text.isBlank, Text.isWhiteSpace, Bool.or_eq_false_iff, Bool.and_eq_false_iff,
    decide_eq_false_iff_not, beq_eq_false_iff_ne]
  omega

theorem length_dropWhile_le (predicate : Char → Bool) (text : List Char) :
    (text.dropWhile predicate).length ≤ text.length :=
  (List.dropWhile_suffix predicate).length_le

/-- The tokens of a text whose first character stands at a column. -/
def scan (column : Nat) (text : List Char) : Except Unexpected (List Token) :=
  match text with
  | [] => .ok []
  | c :: rest =>
    if Text.isBlank c then scan (column + 1) rest
    else if isIdentifierStart c then
      let tail := rest.takeWhile isIdentifierChar
      (scan (column + 1 + tail.length) (rest.dropWhile isIdentifierChar)).map
        (⟨.identifier, String.ofList (c :: tail), column⟩ :: ·)
    else if c = ':' ∧ rest.head? = some ':' then
      (scan (column + 2) rest.tail).map (⟨.separator, "::", column⟩ :: ·)
    else
      match TokenKind.ofChar? c with
      | some kind => (scan (column + 1) rest).map (⟨kind, c.toString, column⟩ :: ·)
      | none => .error ⟨c, column⟩
termination_by text.length
decreasing_by
  all_goals simp only [List.length_cons, List.length_tail]
  all_goals have := length_dropWhile_le isIdentifierChar rest; omega

@[simp] theorem scan_nil (column : Nat) : scan column [] = .ok [] := by
  unfold scan
  rfl

theorem scan_blank (column : Nat) {c : Char} (rest : List Char) (blank : Text.isBlank c = true) :
    scan column (c :: rest) = scan (column + 1) rest := by
  rw [scan.eq_def column (c :: rest)]
  simp [blank]

/-- An identifier ends where the text does not prolong it. -/
theorem scan_identifier (column : Nat) {c : Char} (rest : List Char)
    (start : isIdentifierStart c = true) :
    scan column (c :: rest) =
      (scan (column + 1 + (rest.takeWhile isIdentifierChar).length)
        (rest.dropWhile isIdentifierChar)).map
          (⟨.identifier, String.ofList (c :: rest.takeWhile isIdentifierChar), column⟩ :: ·) := by
  rw [scan.eq_def column (c :: rest)]
  simp [isBlank_of_isIdentifierStart start, start]

theorem scan_colons (column : Nat) (rest : List Char) :
    scan column (':' :: ':' :: rest) =
      (scan (column + 2) rest).map (⟨.separator, "::", column⟩ :: ·) := by
  rw [scan.eq_def column (':' :: ':' :: rest)]
  simp [show Text.isBlank ':' = false by decide, show isIdentifierStart ':' = false by decide]

theorem scan_character (column : Nat) {c : Char} {kind : TokenKind} (rest : List Char)
    (known : TokenKind.ofChar? c = some kind) :
    scan column (c :: rest) = (scan (column + 1) rest).map (⟨kind, c.toString, column⟩ :: ·) := by
  have other : Text.isBlank c = false ∧ isIdentifierStart c = false ∧ c ≠ ':' := by
    unfold TokenKind.ofChar? at known
    split at known <;> cases known <;> decide
  rw [scan.eq_def column (c :: rest)]
  simp [other, known]

end SchemaGrammar.TypeRef
