import SchemaGrammar.Proofs.TypeParsing
set_option autoImplicit false

/-!
Types come back from their written form. `Scans` says what a piece of text is scanned to wherever it
stands in front of something that prolongs no name; pieces that are written one after the other are
scanned to their tokens one after the other. The written form of a type is scanned to a sentence
that derives the type (`Named.scans_text`), and the parser finds that derivation.
-/

namespace SchemaGrammar.TypeRef

/-- All names in a type are identifiers. -/
inductive Named : TypeRef → Prop where
  | node {path : List String} {args : List TypeRef} :
      (∀ name ∈ path, isIdentifier name = true) → (∀ argument ∈ args, Named argument) →
      Named ⟨path, args⟩

/-- A text that does not prolong a name in front of it. -/
def Apart (text : List Char) : Prop := ∀ c ∈ text.head?, isIdentifierChar c = false

/-- A piece of text is scanned to tokens of a form, at every column and in front of everything that
prolongs no name. -/
def Scans (piece : List Char) (form : List Token → Prop) : Prop :=
  ∀ (column : Nat) (rest : List Char) (others : List Token), Apart rest →
    scan (column + piece.length) rest = .ok others →
    ∃ tokens, form tokens ∧ scan column (piece ++ rest) = .ok (tokens ++ others)

theorem apart_nil : Apart [] := by simp [Apart]

theorem Apart.takeWhile_eq {text : List Char} (apart : Apart text) :
    text.takeWhile isIdentifierChar = [] := by
  cases text with
  | nil => rfl
  | cons c rest => simp [apart c rfl]

theorem Apart.dropWhile_eq {text : List Char} (apart : Apart text) :
    text.dropWhile isIdentifierChar = text := by
  cases text with
  | nil => rfl
  | cons c rest => simp [apart c rfl]

theorem exists_of_isIdentifier {word : String} (identifier : isIdentifier word = true) :
    ∃ c tail, word.toList = c :: tail ∧ isIdentifierStart c = true ∧
      ∀ other ∈ tail, isIdentifierChar other = true := by
  unfold isIdentifier at identifier
  split at identifier
  · rename_i c tail letters
    rw [Bool.and_eq_true, List.all_eq_true] at identifier
    exact ⟨c, tail, letters, identifier⟩
  · cases identifier

theorem apart_cons {c : Char} (other : isIdentifierChar c = false) (rest : List Char) :
    Apart (c :: rest) := by simp [Apart, other]

namespace Scans

variable {piece back : List Char} {form formBack : List Token → Prop}

theorem imp (scans : Scans piece form) (weaker : ∀ tokens, form tokens → formBack tokens) :
    Scans piece formBack := by
  intro column rest others apart behind
  obtain ⟨tokens, written, scanned⟩ := scans column rest others apart behind
  exact ⟨tokens, weaker tokens written, scanned⟩

theorem nil : Scans [] (· = []) :=
  fun _ _ _ _ behind => ⟨[], rfl, behind⟩

/-- Two pieces, of which the second prolongs no name at the end of the first. -/
theorem append (scans : Scans piece form) (scansBack : Scans back formBack)
    (apart : ∀ rest, Apart rest → Apart (back ++ rest)) :
    Scans (piece ++ back) fun tokens =>
      ∃ first second, form first ∧ formBack second ∧ tokens = first ++ second := by
  intro column rest others restApart behind
  rw [List.length_append, ← Nat.add_assoc] at behind
  obtain ⟨second, writtenBack, scannedBack⟩ := scansBack _ rest others restApart behind
  obtain ⟨first, written, scanned⟩ :=
    scans column (back ++ rest) _ (apart rest restApart) scannedBack
  refine ⟨first ++ second, ⟨first, second, written, writtenBack, rfl⟩, ?_⟩
  rw [List.append_assoc, scanned, List.append_assoc]

theorem blank (scans : Scans piece form) : Scans (' ' :: piece) form := by
  intro column rest others apart behind
  rw [List.length_cons, Nat.add_comm piece.length, ← Nat.add_assoc] at behind
  obtain ⟨tokens, written, scanned⟩ := scans (column + 1) rest others apart behind
  refine ⟨tokens, written, ?_⟩
  rw [List.cons_append, scan_blank column _ (by decide)]
  exact scanned

/-- A token of one character in front of a piece. -/
theorem character {c : Char} {kind : TokenKind} (known : TokenKind.ofChar? c = some kind)
    (scans : Scans piece form) :
    Scans (c :: piece) fun tokens =>
      ∃ (lexeme : Lexeme kind) (second : List Token), form second ∧
        tokens = lexeme.val :: second := by
  intro column rest others apart behind
  rw [List.length_cons, Nat.add_comm piece.length, ← Nat.add_assoc] at behind
  obtain ⟨second, written, scanned⟩ := scans (column + 1) rest others apart behind
  refine ⟨_, ⟨⟨⟨kind, c.toString, column⟩, rfl⟩, second, written, rfl⟩, ?_⟩
  rw [List.cons_append, scan_character column _ known, scanned]
  rfl

theorem colons (scans : Scans piece form) :
    Scans (':' :: ':' :: piece) fun tokens =>
      ∃ (lexeme : Lexeme .separator) (second : List Token), form second ∧
        tokens = lexeme.val :: second := by
  intro column rest others apart behind
  have length : column + (':' :: ':' :: piece).length = column + 2 + piece.length := by
    simp only [List.length_cons]
    omega
  rw [length] at behind
  obtain ⟨second, written, scanned⟩ := scans (column + 2) rest others apart behind
  refine ⟨_, ⟨⟨⟨.separator, "::", column⟩, rfl⟩, second, written, rfl⟩, ?_⟩
  rw [List.cons_append, List.cons_append, scan_colons, scanned]
  rfl

theorem identifier {word : String} (identifier : isIdentifier word = true) :
    Scans word.toList fun tokens =>
      ∃ lexeme : Lexeme .identifier, lexeme.val.text = word ∧ tokens = [lexeme.val] := by
  intro column rest others apart behind
  obtain ⟨c, tail, letters, start, prolonging⟩ := exists_of_isIdentifier identifier
  have taken : (tail ++ rest).takeWhile isIdentifierChar = tail := by
    rw [List.takeWhile_append_of_pos prolonging, apart.takeWhile_eq, List.append_nil]
  have dropped : (tail ++ rest).dropWhile isIdentifierChar = rest := by
    rw [List.dropWhile_append_of_pos prolonging, apart.dropWhile_eq]
  rw [letters, List.length_cons, Nat.add_comm tail.length, ← Nat.add_assoc] at behind
  refine ⟨_, ⟨⟨⟨.identifier, word, column⟩, rfl⟩, rfl, rfl⟩, ?_⟩
  rw [letters, List.cons_append, scan_identifier column _ start, taken, dropped, behind, ← letters,
    String.ofList_toList]
  rfl

end Scans

/-- A path is scanned to its names and the separators between them. -/
theorem scans_path {name : String} {names : List String}
    (identifiers : ∀ word ∈ name :: names, isIdentifier word = true) :
    Scans ([':', ':'].intercalate ((name :: names).map String.toList)) fun tokens =>
      ∃ path : Path, path.names = name :: names ∧ path.tokens = tokens := by
  induction names generalizing name with
  | nil =>
    have word := Scans.identifier (identifiers name (by simp))
    rw [List.map_singleton, List.intercalate_singleton]
    apply word.imp
    rintro tokens ⟨lexeme, rfl, rfl⟩
    exact ⟨⟨lexeme, []⟩, rfl, rfl⟩
  | cons second names inductionHypothesis =>
    have word := Scans.identifier (identifiers name (by simp))
    have others := inductionHypothesis (List.forall_mem_cons.mp identifiers).2
    rw [List.map_cons, List.map_cons, List.intercalate_cons_cons, List.append_assoc]
    apply (word.append others.colons fun rest _ => apart_cons (by decide) _).imp
    rintro tokens ⟨_, _, ⟨lexeme, rfl, rfl⟩, ⟨separator, _, ⟨path, same, rfl⟩, rfl⟩, rfl⟩
    refine ⟨⟨lexeme, (separator, path.first) :: path.more⟩, ?_, rfl⟩
    rw [← same]
    rfl

/-- The tokens are a sentence for a type. -/
def Derives (type : TypeRef) (tokens : List Token) : Prop :=
  ∃ derivation : Derivation, derivation.type = type ∧ derivation.tokens = tokens

/-- Members with commas between them are scanned to the sentences of the members and the commas. -/
theorem scans_members {member : TypeRef} {others : List TypeRef}
    (each : ∀ type ∈ member :: others, Scans type.text.toList (Derives type)) :
    Scans ([',', ' '].intercalate ((member :: others).map fun type => type.text.toList))
      fun tokens => ∃ members : Members, members.types = member :: others ∧
        members.tokens = tokens := by
  induction others generalizing member with
  | nil =>
    rw [List.map_singleton, List.intercalate_singleton]
    apply (each member (by simp)).imp
    rintro tokens ⟨derivation, rfl, rfl⟩
    exact ⟨.last derivation, rfl, rfl⟩
  | cons second others inductionHypothesis =>
    have first := each member (by simp)
    have behind := inductionHypothesis (List.forall_mem_cons.mp each).2
    have comma : TokenKind.ofChar? ',' = some .comma := rfl
    rw [List.map_cons, List.map_cons, List.intercalate_cons_cons, List.append_assoc]
    apply (first.append (behind.blank.character comma) fun rest _ => apart_cons (by decide) _).imp
    rintro tokens ⟨_, _, ⟨derivation, rfl, rfl⟩, ⟨lexeme, _, ⟨members, same, rfl⟩, rfl⟩, rfl⟩
    refine ⟨.more derivation lexeme members, ?_, rfl⟩
    rw [Members.types, same]

theorem texts_eq_map (types : List TypeRef) : texts types = types.map text := by
  induction types with
  | nil => rfl
  | cons type rest inductionHypothesis => rw [texts, inductionHypothesis, List.map_cons]

theorem toList_text_tuple (args : List TypeRef) :
    (text ⟨[], args⟩).toList =
      '(' :: ([',', ' '].intercalate (args.map fun type => type.text.toList) ++ [')']) := by
  simp [text, texts_eq_map, String.toList_intercalate, Function.comp_def]

theorem toList_text_path (name : String) (names : List String) :
    (text ⟨name :: names, []⟩).toList =
      [':', ':'].intercalate ((name :: names).map String.toList) := by
  simp [text, String.toList_intercalate]

theorem toList_text_generic (name : String) (names : List String) (argument : TypeRef)
    (arguments : List TypeRef) :
    (text ⟨name :: names, argument :: arguments⟩).toList =
      [':', ':'].intercalate ((name :: names).map String.toList) ++
        '<' :: ([',', ' '].intercalate
          ((argument :: arguments).map fun type => type.text.toList) ++ ['>']) := by
  simp [text, texts_eq_map, String.toList_intercalate, Function.comp_def]

/-- The written form of a type is scanned to a sentence for the type. -/
theorem Named.scans_text {type : TypeRef} (named : Named type) :
    Scans type.text.toList (Derives type) := by
  have closeParen : TokenKind.ofChar? ')' = some .closeParen := rfl
  have closeAngle : TokenKind.ofChar? '>' = some .closeAngle := rfl
  induction named with
  | @node path args identifiers _ inductionHypothesis =>
    rcases path with _ | ⟨name, names⟩
    · have openParen : TokenKind.ofChar? '(' = some .openParen := rfl
      rw [toList_text_tuple]
      rcases args with _ | ⟨argument, arguments⟩
      · apply ((Scans.nil.character closeParen).character openParen).imp
        rintro tokens ⟨opening, _, ⟨closing, _, rfl, rfl⟩, rfl⟩
        exact ⟨.unit opening closing, rfl, rfl⟩
      · have inside := (scans_members inductionHypothesis).append
          (Scans.nil.character closeParen) fun rest _ => apart_cons (by decide) _
        apply (inside.character openParen).imp
        rintro tokens ⟨opening, _, ⟨_, _, ⟨members, same, rfl⟩, ⟨closing, _, rfl, rfl⟩, rfl⟩, rfl⟩
        exact ⟨.tuple opening members closing, by rw [Derivation.type, same], rfl⟩
    · rcases args with _ | ⟨argument, arguments⟩
      · rw [toList_text_path]
        apply (scans_path identifiers).imp
        rintro tokens ⟨path, same, rfl⟩
        exact ⟨.name path, by rw [Derivation.type, same], rfl⟩
      · have openAngle : TokenKind.ofChar? '<' = some .openAngle := rfl
        have inside := (scans_members inductionHypothesis).append
          (Scans.nil.character closeAngle) fun rest _ => apart_cons (by decide) _
        rw [toList_text_generic]
        apply ((scans_path identifiers).append (inside.character openAngle)
          fun rest _ => apart_cons (by decide) _).imp
        rintro tokens ⟨_, _, ⟨path, samePath, rfl⟩,
          ⟨opening, _, ⟨_, _, ⟨members, same, rfl⟩, ⟨closing, _, rfl, rfl⟩, rfl⟩, rfl⟩, rfl⟩
        exact ⟨.generic path opening members closing, by rw [Derivation.type, samePath, same], rfl⟩

theorem Named.parse_text {type : TypeRef} (named : Named type) : parse type.text = .ok type := by
  have nothing : scan (1 + type.text.toList.length) [] = .ok [] := scan_nil _
  obtain ⟨_, ⟨derivation, derived, rfl⟩, scanned⟩ := named.scans_text 1 [] [] apart_nil nothing
  rw [List.append_nil, List.append_nil] at scanned
  exact parse_eq_ok_iff.mpr ⟨derivation, tokenize_eq_ok_iff.mpr scanned, derived⟩

/-- The names of a path are those of its tokens. -/
theorem Path.identifiers {path : Path}
    (spelled : ∀ token ∈ path.tokens, Spelling token.kind token.text) :
    ∀ name ∈ path.names, isIdentifier name = true := by
  have identifier (lexeme : Lexeme .identifier) (member : lexeme.val ∈ path.tokens) :
      isIdentifier lexeme.val.text = true := by
    have spelling := spelled lexeme.val member
    rw [lexeme.property] at spelling
    exact spelling.isIdentifier
  intro name member
  rcases List.mem_cons.mp member with rfl | member
  · exact identifier path.first (by simp [tokens])
  · obtain ⟨⟨separator, segment⟩, listed, rfl⟩ := List.mem_map.mp member
    refine identifier segment (List.mem_cons_of_mem _ ?_)
    exact List.mem_flatMap.mpr ⟨_, listed, by simp⟩

mutual

/-- A type has the names that are written in its sentence. -/
theorem Derivation.named : ∀ {derivation : Derivation},
    (∀ token ∈ derivation.tokens, Spelling token.kind token.text) → Named derivation.type
  | .unit _ _, _ => .node (by simp) (by simp)
  | .tuple _ members _, spelled =>
    .node (by simp)
      (Members.named fun token member => spelled token (by simp [Derivation.tokens, member]))
  | .name path, spelled => .node (Path.identifiers spelled) (by simp)
  | .generic path _ members _, spelled =>
    .node (Path.identifiers fun token member => spelled token (by simp [Derivation.tokens, member]))
      (Members.named fun token member => spelled token (by simp [Derivation.tokens, member]))

theorem Members.named : ∀ {members : Members},
    (∀ token ∈ members.tokens, Spelling token.kind token.text) →
    ∀ type ∈ members.types, Named type
  | .last member, spelled => by
    rw [Members.types]
    simpa using Derivation.named spelled
  | .more member _ rest, spelled => by
    rw [Members.types, List.forall_mem_cons]
    exact ⟨Derivation.named fun token inside => spelled token (by simp [Members.tokens, inside]),
      Members.named fun token inside => spelled token (by simp [Members.tokens, inside])⟩

end

/-- All names in a type that is read from a text are identifiers. -/
theorem named_of_parse {text : String} {type : TypeRef} (parsed : parse text = .ok type) :
    Named type := by
  obtain ⟨derivation, tokenized, rfl⟩ := parse_eq_ok_iff.mp parsed
  exact Derivation.named (spelling_of_scan (tokenize_eq_ok_iff.mp tokenized))

/-- A type whose names are identifiers comes back from its written form, so that different types of
this kind are written differently; and a type that is read from any text is one of them. -/
theorem parse_text_identity :
    (∀ type, Named type → parse type.text = .ok type) ∧
    (∀ type other, Named type → Named other → type.text = other.text → type = other) ∧
    ∀ text type, parse text = .ok type → parse type.text = .ok type := by
  refine ⟨fun type named => named.parse_text, ?_, fun text type parsed =>
    (named_of_parse parsed).parse_text⟩
  intro type other named otherNamed same
  have parsed := named.parse_text
  rw [same, otherNamed.parse_text] at parsed
  exact (Except.ok.inj parsed).symm

/-- A tuple of a qualified path with arguments, the tuple without members and a list. -/
def tupleType : TypeRef :=
  ⟨[], [⟨["std", "Map"], [⟨["K"], []⟩, ⟨[], []⟩]⟩, ⟨["Vec"], [⟨["_T1"], []⟩]⟩]⟩

theorem tupleType_reads_back :
    tupleType.Named ∧ tupleType.text = "(std::Map<K, ()>, Vec<_T1>)" ∧
      parse "(std::Map<K, ()>, Vec<_T1>)" = .ok tupleType := by
  have written : tupleType.text = "(std::Map<K, ()>, Vec<_T1>)" := by decide +kernel
  have bare {name : String} (identifier : isIdentifier name = true) : Named ⟨[name], []⟩ :=
    .node (by simpa using identifier) (by simp)
  have pair {name : List String} {first second : TypeRef}
      (identifiers : ∀ word ∈ name, isIdentifier word = true) (named : Named first)
      (other : Named second) : Named ⟨name, [first, second]⟩ :=
    .node identifiers (List.forall_mem_cons.mpr ⟨named, List.forall_mem_singleton.mpr other⟩)
  have unit : Named ⟨[], []⟩ := .node (by simp) (by simp)
  have vec : Named ⟨["Vec"], [⟨["_T1"], []⟩]⟩ :=
    .node (by decide) (List.forall_mem_singleton.mpr (bare (by decide)))
  have named : Named tupleType := pair (by simp) (pair (by decide) (bare (by decide)) unit) vec
  refine ⟨named, written, ?_⟩
  rw [← written]
  exact parse_text_identity.1 tupleType named

end SchemaGrammar.TypeRef
