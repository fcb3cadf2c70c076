import SchemaGrammar.Proofs.Reading
set_option autoImplicit false

/-!
What readers see to in a schema. `SchemaModule.Valid` says it at every depth: either no field of a
record has a name or all have different ones, a union has variants of different names, a leaf is one
terminal at most, and grammars are named by identifiers; a level of precedence is in its range by
its type. All schemas that are read are valid.
-/

namespace SchemaGrammar

namespace Leaf

/-- A leaf is one terminal at most. -/
def Valid (leaf : Leaf) : Prop := leaf.pattern = none ∨ leaf.text = none

theorem violation?_eq_none_iff {leaf : Leaf} : leaf.violation? = none ↔ leaf.Valid := by
  obtain ⟨_ | pattern, _ | text, transform⟩ := leaf <;> simp [violation?, Valid]

theorem valid_of_reader {value : Value} {leaf : Leaf} (read : reader value = .valid leaf) :
    leaf.Valid :=
  violation?_eq_none_iff.mp (Checked.obeying_eq_valid_iff.mp read).2

end Leaf

namespace Field

/-- The leaf of a field is valid, and so are those of its delimiters. -/
inductive Valid : Field → Prop where
  | intro {field : Field} :
      (∀ leaf ∈ field.leaf, leaf.Valid) →
      (∀ delimiter ∈ field.delimited, Valid delimiter) → Valid field

theorem reading_yields_valid (value : Value) (room : Nat) :
    (reading value room).Yields Valid := by
  refine Reader.recursive_yields ?_ value room
  intro room entries? field inner read
  obtain ⟨_, read⟩ := Checked.within_eq_valid_iff.mp read
  rcases entries? with _ | entries
  · exact absurd read Checked.fault_ne_valid
  · obtain ⟨_, read, _⟩ := Reader.closed_eq_valid_iff.mp read
    simp only [Checked.seq_eq_valid_iff, Checked.fmap_eq_valid_iff] at read
    obtain ⟨_, repetition, ⟨_, delimited, ⟨_, leaf, ⟨_, type, ⟨name, _, rfl⟩, _, rfl⟩, leafRead,
      rfl⟩, delimitedRead, rfl⟩, _, rfl⟩ := read
    constructor
    · rintro leaf ⟨⟩
      obtain ⟨value, valid⟩ := Reader.exists_of_optional leafRead
      exact Leaf.valid_of_reader valid
    · rintro delimiter ⟨⟩
      obtain ⟨entry, member, valid⟩ := Reader.exists_of_optionalPart delimitedRead
      exact (inner entries rfl entry member _).alone delimiter valid

theorem repeated_eq_nil_iff {names : List String} : repeated names = [] ↔ names.Nodup := by
  have counted : repeated names = [] ↔ ∀ name ∈ names, names.count name ≤ 1 := by
    simp only [repeated, List.eq_nil_iff_forall_not_mem, List.mem_mergeSort, List.mem_eraseDups,
      List.mem_filter, decide_eq_true_eq, not_and, Nat.not_lt]
  rw [counted, List.nodup_iff_count]
  constructor
  · intro single name
    by_cases member : name ∈ names
    · exact single name member
    · rw [List.count_eq_zero_of_not_mem member]
      exact Nat.zero_le 1
  · intro single name _
    exact single name

/-- Either no field has a name, or all have different names. -/
def WellNamed (fields : List Field) : Prop :=
  (∀ field ∈ fields, field.name = none) ∨
    (∀ field ∈ fields, field.name.isSome = true) ∧ (fields.filterMap Field.name).Nodup

theorem violation?_eq_none_iff {fields : List Field} :
    violation? fields = none ↔ WellNamed fields := by
  have unnamed : fields.filterMap Field.name = [] ↔ ∀ field ∈ fields, field.name = none :=
    List.filterMap_eq_nil_iff
  have named : (fields.filterMap Field.name).length = fields.length ↔
      ∀ field ∈ fields, field.name.isSome = true := by
    rw [List.length_filterMap_eq_countP, List.countP_eq_length]
  rw [violation?, WellNamed, ← unnamed, ← named, ← repeated_eq_nil_iff]
  generalize fields.filterMap Field.name = names
  rcases names with _ | ⟨first, rest⟩
  · have single : repeated [] = [] := repeated_eq_nil_iff.mpr List.nodup_nil
    simp [single]
  · by_cases complete : rest.length + 1 = fields.length
    · by_cases single : repeated (first :: rest) = [] <;> simp [complete, single]
    · simp [complete]

/-- The fields of a record or a variant are valid, and so are their names. -/
structure ValidList (fields : List Field) : Prop where
  named : WellNamed fields
  each : ∀ field ∈ fields, field.Valid

theorem validList_nil : ValidList [] :=
  ⟨.inl (by simp), by simp⟩

theorem valid_of_listReader {room : Nat} {value : Value} {fields : List Field}
    (read : listReader room value = .valid fields) : ValidList fields := by
  obtain ⟨read, unbroken⟩ := Checked.obeying_eq_valid_iff.mp read
  refine ⟨violation?_eq_none_iff.mp unbroken, ?_⟩
  obtain ⟨values, rfl, listed⟩ := Reader.list_eq_valid_iff.mp read
  intro field member
  obtain ⟨source, _, owned⟩ := Checked.exists_of_mem_items listed member
  exact (reading_yields_valid source (room - 1)).alone field (Reader.owned_eq_valid_iff.mp owned).2

theorem validList_of_defaulting {key : String} {room : Nat} {table : Table}
    {fields : List Field}
    (read : Reader.defaulting key [] (listReader room) table = .valid fields) :
    ValidList fields := by
  rcases Reader.exists_of_defaulting read with rfl | ⟨value, valid⟩
  · exact validList_nil
  · exact valid_of_listReader valid

end Field

/-- A table gives a level by an integer of the range, and never by a truth value. -/
def GivesLevel (table : Table) (precedence : Option Level) : Prop :=
  ((table.lookup "prec_left" = none ∨ table.lookup "prec_left" = some .null) ∧
    precedence = none) ∨
    ∃ level : Level, table.lookup "prec_left" = some (.integer level.toNat) ∧
      precedence = some level

theorem precedenceReader_eq_valid_iff {table : Table} {precedence : Option Level} :
    precedenceReader table = .valid precedence ↔ GivesLevel table precedence := by
  have integers (value : Value) (level : Level) :
      Checked.andThen levelOfInt (Reader.integer value) = .valid level ↔
        value = .integer level.toNat := by
    rw [Checked.andThen_eq_valid_iff]
    simp only [levelOfInt_eq_valid_iff]
    cases value <;> simp [Reader.integer]
  rw [precedenceReader, Reader.optional_eq_valid_iff, GivesLevel]
  simp only [integers]
  apply or_congr_right
  constructor
  · intro given
    obtain ⟨_, level, found, _, rfl, same⟩ := given
    exact ⟨level, found, same⟩
  · intro given
    obtain ⟨level, found, same⟩ := given
    exact ⟨_, level, found, by simp, rfl, same⟩

namespace Record

theorem exists_of_readerIn {room : Nat} {value : Value} {spec : Record}
    (read : readerIn room value = .valid spec) :
    ∃ table, value = .table table ∧ Field.ValidList spec.fields ∧
      GivesLevel table spec.precedence := by
  obtain ⟨table, rfl, closed⟩ := Reader.closedModel_eq_valid_iff.mp read
  obtain ⟨_, read, _⟩ := Reader.closed_eq_valid_iff.mp closed
  simp only [Checked.seq_eq_valid_iff, Checked.fmap_eq_valid_iff] at read
  obtain ⟨_, language, ⟨_, extra, ⟨_, precedence, ⟨_, fields, ⟨_, name, ⟨_, _, rfl⟩, _, rfl⟩,
    fieldsRead, rfl⟩, levelRead, rfl⟩, _, rfl⟩, _, rfl⟩ := read
  exact ⟨table, rfl, Field.validList_of_defaulting fieldsRead,
    precedenceReader_eq_valid_iff.mp levelRead⟩

end Record

namespace Variant

theorem exists_of_readerIn {room : Nat} {value : Value} {variant : Variant}
    (read : readerIn room value = .valid variant) :
    ∃ table, value = .table table ∧ Field.ValidList variant.fields ∧
      GivesLevel table variant.precedence := by
  obtain ⟨table, rfl, closed⟩ := Reader.closedModel_eq_valid_iff.mp read
  obtain ⟨_, read, _⟩ := Reader.closed_eq_valid_iff.mp closed
  simp only [Checked.seq_eq_valid_iff, Checked.fmap_eq_valid_iff] at read
  obtain ⟨_, precedence, ⟨_, fields, ⟨name, _, rfl⟩, fieldsRead, rfl⟩, levelRead, rfl⟩ := read
  exact ⟨table, rfl, Field.validList_of_defaulting fieldsRead,
    precedenceReader_eq_valid_iff.mp levelRead⟩

end Variant

namespace TaggedUnion

/-- There is a variant, and the variants have different names and valid fields. -/
structure ValidVariants (variants : List Variant) : Prop where
  some : variants ≠ []
  named : (variants.map Variant.name).Nodup
  each : ∀ variant ∈ variants, Field.ValidList variant.fields

theorem violation?_eq_none_iff {variants : List Variant} :
    violation? variants = none ↔ (variants.map Variant.name).Nodup := by
  rw [← Field.repeated_eq_nil_iff, violation?]
  by_cases single : Field.repeated (variants.map Variant.name) = [] <;> simp [single]

theorem valid_of_variantsReader {room : Nat} {value : Value} {variants : List Variant}
    (read : variantsReader room value = .valid variants) : ValidVariants variants := by
  obtain ⟨read, unbroken⟩ := Checked.obeying_eq_valid_iff.mp read
  obtain ⟨found, read, filled⟩ := Checked.andThen_eq_valid_iff.mp read
  split at filled <;> rename_i empty
  · exact absurd filled Checked.fault_ne_valid
  · cases filled
    obtain ⟨values, rfl, listed⟩ := Reader.list_eq_valid_iff.mp read
    refine ⟨?_, violation?_eq_none_iff.mp unbroken, ?_⟩
    · rintro rfl
      exact empty rfl
    · intro variant member
      obtain ⟨source, _, valid⟩ := Checked.exists_of_mem_items listed member
      obtain ⟨_, _, fields, _⟩ := Variant.exists_of_readerIn valid
      exact fields

theorem valid_of_readerIn {room : Nat} {value : Value} {spec : TaggedUnion}
    (read : readerIn room value = .valid spec) : ValidVariants spec.variants := by
  obtain ⟨table, rfl, closed⟩ := Reader.closedModel_eq_valid_iff.mp read
  obtain ⟨_, read, _⟩ := Reader.closed_eq_valid_iff.mp closed
  simp only [Checked.seq_eq_valid_iff, Checked.fmap_eq_valid_iff] at read
  obtain ⟨_, language, ⟨_, extra, ⟨_, variants, ⟨_, name, ⟨_, _, rfl⟩, _, rfl⟩, variantsRead, rfl⟩,
    _, rfl⟩, _, rfl⟩ := read
  obtain ⟨value, _, valid⟩ := Reader.required_eq_valid_iff.mp variantsRead
  exact valid_of_variantsReader valid

end TaggedUnion

namespace Definition

def Valid : Definition → Prop
  | .record spec => Field.ValidList spec.fields
  | .union spec => TaggedUnion.ValidVariants spec.variants

theorem valid_of_readerIn {room : Nat} {value : Value} {definition : Definition}
    (read : readerIn room value = .valid definition) : definition.Valid := by
  unfold readerIn at read
  split at read
  · split at read
    · exact absurd read Checked.fault_ne_valid
    · split at read
      · rw [Checked.inside_eq_valid_iff, Checked.map_eq_valid_iff] at read
        obtain ⟨spec, read, rfl⟩ := read
        obtain ⟨_, _, fields, _⟩ := Record.exists_of_readerIn read
        exact fields
      · rw [Checked.inside_eq_valid_iff, Checked.map_eq_valid_iff] at read
        obtain ⟨spec, read, rfl⟩ := read
        exact TaggedUnion.valid_of_readerIn read
      · exact absurd read Checked.fault_ne_valid
  · exact absurd read Checked.fault_ne_valid

end Definition

theorem TypeRef.toNat_le_of_isIdentifierChar {c : Char} (part : isIdentifierChar c = true) :
    c.toNat ≤ 122 := by
  have bounds : ('a' ≤ c ∧ c ≤ 'z') ∨ ('A' ≤ c ∧ c ≤ 'Z') ∨ c = '_' ∨ ('0' ≤ c ∧ c ≤ '9') := by
    simpa [isIdentifierChar, isIdentifierStart, or_assoc] using part
  rcases bounds with ⟨_, high⟩ | ⟨_, high⟩ | rfl | ⟨_, high⟩
  · exact Char.le_def.mp high
  · exact Nat.le_trans (Char.le_def.mp high) (by decide)
  · decide
  · exact Nat.le_trans (Char.le_def.mp high) (by decide)

/-- Identifiers are ASCII text. -/
theorem TypeRef.isEncodable_of_isIdentifier {text : String}
    (identifier : isIdentifier text = true) : Text.isEncodable text = true := by
  rw [Text.isEncodable, List.all_eq_true]
  intro c member
  have part : isIdentifierChar c = true := by
    unfold isIdentifier at identifier
    split at identifier <;> rename_i characters
    · rw [Bool.and_eq_true, List.all_eq_true] at identifier
      rw [characters] at member
      rcases List.mem_cons.mp member with rfl | member
      · simp [isIdentifierChar, identifier.1]
      · exact identifier.2 c member
    · cases identifier
  have small := toNat_le_of_isIdentifierChar part
  have code : c.toNat - Text.standInShift = 0 := by
    rw [Text.standInShift]
    omega
  simp [Text.surrogate?, code, Text.isSurrogate]

theorem grammarNameReader_eq_valid_iff {value : Value} {name : String} :
    grammarNameReader value = .valid name ↔
      value = .string name ∧ TypeRef.isIdentifier name = true := by
  constructor
  · intro read
    unfold grammarNameReader at read
    split at read
    · split at read
      · exact absurd read Checked.fault_ne_valid
      split at read <;> rename_i identifier
      · cases read
        exact ⟨rfl, identifier⟩
      · exact absurd read Checked.fault_ne_valid
    · exact absurd read Checked.fault_ne_valid
  · intro conditions
    obtain ⟨rfl, identifier⟩ := conditions
    simp [grammarNameReader, TypeRef.isEncodable_of_isIdentifier identifier, identifier]

namespace SchemaModule

/-- Grammars are named by identifiers, and the definitions in all modules are valid. -/
inductive Valid : SchemaModule → Prop where
  | intro {spec : SchemaModule} :
      (∀ name ∈ spec.grammar, TypeRef.isIdentifier name = true) →
      (∀ definition ∈ spec.definitions, definition.Valid) →
      (∀ inner ∈ spec.modules, Valid inner) → Valid spec

theorem reading_yields_valid (value : Value) (room : Nat) :
    (reading value room).Yields Valid := by
  refine Reader.recursive_yields ?_ value room
  intro room entries? spec inner read
  obtain ⟨_, read⟩ := Checked.within_eq_valid_iff.mp read
  rcases entries? with _ | entries
  · exact absurd read Checked.fault_ne_valid
  · obtain ⟨_, read, _⟩ := Reader.closed_eq_valid_iff.mp read
    simp only [Checked.seq_eq_valid_iff, Checked.fmap_eq_valid_iff] at read
    obtain ⟨_, modules, ⟨_, definitions, ⟨_, grammar, ⟨name, _, rfl⟩, grammarRead, rfl⟩,
      definitionsRead, rfl⟩, modulesRead, rfl⟩ := read
    constructor
    · rintro name ⟨⟩
      obtain ⟨value, valid⟩ := Reader.exists_of_optional grammarRead
      exact (grammarNameReader_eq_valid_iff.mp valid).2
    · intro definition member
      rcases Reader.exists_of_defaulting definitionsRead with rfl | ⟨value, listed⟩
      · cases member
      · obtain ⟨values, rfl, listed⟩ := Reader.list_eq_valid_iff.mp listed
        obtain ⟨source, _, valid⟩ := Checked.exists_of_mem_items listed member
        exact Definition.valid_of_readerIn valid
    · intro part member
      rcases Reader.exists_of_defaultingPart modulesRead with rfl | ⟨entry, given, listed⟩
      · cases member
      · exact (inner entries rfl entry given _).many modules listed part member

end SchemaModule

end SchemaGrammar
