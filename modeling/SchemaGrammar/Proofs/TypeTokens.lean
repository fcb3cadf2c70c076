import SchemaGrammar.TypeRef.Token
set_option autoImplicit false

/-!
The tokens of a text. Every token starts inside the text, and so does what is reported as a
character that begins no token (`placed_scan`); every token has a text that is written for its kind
(`spelling_of_scan`).
-/

namespace SchemaGrammar.TypeRef

/-- A place in a text whose first character stands at a column. -/
def Within (column : Nat) (text : List Char) (place : Nat) : Prop :=
  column ≤ place ∧ place < column + text.length

theorem within_cons (column : Nat) (c : Char) (rest : List Char) :
    Within column (c :: rest) column := by
  simp [Within]

/-- What lies in a part of the text behind some characters lies in the text. -/
theorem Within.of_behind {column taken place : Nat} {text rest : List Char}
    (behind : taken + rest.length ≤ text.length) (within : Within (column + taken) rest place) :
    Within column text place := by
  unfold Within at *
  omega

theorem length_takeWhile_add_length_dropWhile (predicate : Char → Bool) (text : List Char) :
    (text.takeWhile predicate).length + (text.dropWhile predicate).length = text.length := by
  rw [← List.length_append, List.takeWhile_append_dropWhile]

/-- Everything that scanning tells the place of lies in the text. -/
def Placed (column : Nat) (text : List Char) : Except Unexpected (List Token) → Prop
  | .ok tokens => ∀ token ∈ tokens, Within column text token.column
  | .error unexpected => Within column text unexpected.column

theorem Placed.of_behind {column taken : Nat} {text rest : List Char}
    {scanned : Except Unexpected (List Token)} (behind : taken + rest.length ≤ text.length)
    (placed : Placed (column + taken) rest scanned) : Placed column text scanned := by
  cases scanned with
  | ok tokens => exact fun token member => (placed token member).of_behind behind
  | error unexpected => exact Within.of_behind behind placed

theorem Placed.cons {column : Nat} {c : Char} {rest : List Char}
    {scanned : Except Unexpected (List Token)} (placed : Placed column (c :: rest) scanned)
    (kind : TokenKind) (word : String) :
    Placed column (c :: rest) (scanned.map (⟨kind, word, column⟩ :: ·)) := by
  cases scanned with
  | ok tokens =>
    intro token member
    rcases List.mem_cons.mp member with rfl | member
    · exact within_cons column c rest
    · exact placed token member
  | error unexpected => exact placed

theorem placed_scan (column : Nat) (text : List Char) : Placed column text (scan column text) := by
  fun_induction scan column text with
  | case1 column => simp [Placed]
  | case2 column c rest blank placed => exact placed.of_behind (by simp [Nat.add_comm])
  | case3 column c rest blank start tail placed =>
    have behind : 1 + tail.length + (rest.dropWhile isIdentifierChar).length ≤
        (c :: rest).length := by
      have split : tail.length + (rest.dropWhile isIdentifierChar).length = rest.length :=
        length_takeWhile_add_length_dropWhile isIdentifierChar rest
      rw [List.length_cons]
      omega
    rw [Nat.add_assoc] at placed ⊢
    exact (placed.of_behind behind).cons _ _
  | case4 column c rest blank start colons placed =>
    have behind : 2 + rest.tail.length ≤ (c :: rest).length := by
      rcases rest with _ | ⟨next, rest⟩
      · simp at colons
      · simp only [List.tail_cons, List.length_cons]
        omega
    exact (placed.of_behind behind).cons _ _
  | case5 column c rest blank start colons kind known placed =>
    exact (placed.of_behind (by simp [Nat.add_comm])).cons _ _
  | case6 column c rest => exact within_cons column c rest

/-- The texts that are read as a token of a kind. -/
inductive Spelling : TokenKind → String → Prop where
  | identifier {text : String} : isIdentifier text = true → Spelling .identifier text
  | colons : Spelling .separator "::"
  | character {c : Char} {kind : TokenKind} :
      TokenKind.ofChar? c = some kind → Spelling kind c.toString

/-- One character is never read as an identifier, nor as the end of the text. -/
theorem TokenKind.ofChar?_ne {c : Char} {kind : TokenKind} (known : ofChar? c = some kind) :
    kind ≠ .identifier ∧ kind ≠ .ending := by
  unfold ofChar? at known
  split at known <;> cases known <;> decide

theorem Spelling.ne_ending {kind : TokenKind} {text : String} (spelling : Spelling kind text) :
    kind ≠ .ending := by
  cases spelling with
  | identifier | colons => decide
  | character known => exact (TokenKind.ofChar?_ne known).2

theorem Spelling.isIdentifier {text : String} (spelling : Spelling .identifier text) :
    isIdentifier text = true := by
  cases spelling with
  | identifier identifier => exact identifier
  | character known => exact absurd rfl (TokenKind.ofChar?_ne known).1

/-- A letter with everything behind it that prolongs the name is an identifier. -/
theorem isIdentifier_takeWhile {c : Char} (start : isIdentifierStart c = true)
    (rest : List Char) :
    isIdentifier (String.ofList (c :: rest.takeWhile isIdentifierChar)) = true := by
  simp [isIdentifier, start, List.all_takeWhile]

theorem map_cons_eq_ok_iff {scanned : Except Unexpected (List Token)} {token : Token}
    {tokens : List Token} :
    scanned.map (token :: ·) = .ok tokens ↔
      ∃ rest, scanned = .ok rest ∧ token :: rest = tokens := by
  cases scanned <;> simp [Except.map]

theorem spelling_of_scan {column : Nat} {text : List Char} {tokens : List Token}
    (scanned : scan column text = .ok tokens) :
    ∀ token ∈ tokens, Spelling token.kind token.text := by
  fun_induction scan column text generalizing tokens with
  | case1 column =>
    cases scanned
    simp
  | case2 column c rest blank inductionHypothesis => exact inductionHypothesis scanned
  | case3 column c rest blank start tail =>
    rename_i inductionHypothesis
    obtain ⟨others, behind, rfl⟩ := map_cons_eq_ok_iff.mp scanned
    exact List.forall_mem_cons.mpr
      ⟨.identifier (isIdentifier_takeWhile start rest), inductionHypothesis behind⟩
  | case4 column c rest blank start colons inductionHypothesis =>
    obtain ⟨others, behind, rfl⟩ := map_cons_eq_ok_iff.mp scanned
    exact List.forall_mem_cons.mpr ⟨.colons, inductionHypothesis behind⟩
  | case5 column c rest blank start colons kind known inductionHypothesis =>
    obtain ⟨others, behind, rfl⟩ := map_cons_eq_ok_iff.mp scanned
    exact List.forall_mem_cons.mpr ⟨.character known, inductionHypothesis behind⟩
  | case6 column c rest => cases scanned

end SchemaGrammar.TypeRef
