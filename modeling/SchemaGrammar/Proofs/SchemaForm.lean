import SchemaGrammar.Proofs.Validity
import SchemaGrammar.Schema.Document
import SchemaGrammar.Schema.Writer
set_option autoImplicit false

/-!
A valid schema comes back from its form, the value in which all its keys are written, whenever there
is room for its levels. Every kind of data has its own law, from types and leaves up to modules, and
the law of a whole is put together from those of its parts.
-/

namespace SchemaGrammar

namespace Reader

variable {Data Scope : Type} {key : String} {write : Data → Value} {data : Option Data}

/-- An option comes back from its form. -/
theorem nullable_ofOption {reader : Reader Data} (visible : ∀ item, write item ≠ .null)
    (read : ∀ item ∈ data, reader (write item) = .valid item) :
    nullable reader (.ofOption write data) = .valid data := by
  rw [nullable_eq_valid_iff]
  cases data with
  | none => exact .inl ⟨rfl, rfl⟩
  | some item => exact .inr ⟨visible item, item, read item rfl, rfl⟩

theorem optional_of_lookup {reader : Reader Data} {table : Table}
    (found : table.lookup key = some (.ofOption write data))
    (visible : ∀ item, write item ≠ .null)
    (read : ∀ item ∈ data, reader (write item) = .valid item) :
    optional key reader table = .valid data :=
  defaulting_of_lookup found (nullable_ofOption visible read)

theorem optional_string_of_lookup {table : Table} {text : Option String}
    (found : table.lookup key = some (.ofOption .string text)) :
    optional key string table = .valid text :=
  optional_of_lookup found (by simp) fun _ _ => rfl

theorem optionalPart_of_lookup {scope : Scope} {entries : Readings Scope Data}
    (reading : Value → Scope → Reading Data)
    (found : entries.lookup key =
      some (.ofOption write data, reading (.ofOption write data)))
    (visible : ∀ item, write item ≠ .null)
    (read : ∀ item ∈ data, (reading (write item) scope).alone = .valid item) :
    optionalPart key scope entries = .valid data := by
  rw [optionalPart_eq found, Checked.inside_eq_valid_iff, nullable_eq_valid_iff]
  cases data with
  | none => exact .inl ⟨rfl, rfl⟩
  | some item => exact .inr ⟨visible item, item, read item rfl, rfl⟩

end Reader

theorem le_foldr_max {Data : Type} (measure : Data → Nat) {items : List Data} {item : Data}
    (member : item ∈ items) :
    measure item ≤ items.foldr (fun item most => max (measure item) most) 0 := by
  induction items with
  | nil => cases member
  | cons first rest inductionHypothesis =>
    rw [List.foldr_cons]
    rcases List.mem_cons.mp member with rfl | member
    · exact Nat.le_max_left _ _
    · exact Nat.le_trans (inductionHypothesis member) (Nat.le_max_right _ _)

namespace TypeRef

/-- A property of types that every type takes over from its arguments. -/
@[elab_as_elim]
theorem argumentInduction {motive : TypeRef → Prop}
    (step : ∀ type : TypeRef, (∀ argument ∈ type.args, motive argument) → motive type) :
    ∀ type, motive type
  | ⟨_, _⟩ => step _ fun argument _ => argumentInduction step argument

mutual

/-- The levels of types in each other. -/
def levels : TypeRef → Nat
  | ⟨_, args⟩ => levelsIn args + 1

def levelsIn : List TypeRef → Nat
  | [] => 0
  | type :: rest => max (levels type) (levelsIn rest)

end

theorem levelsIn_eq_foldr (types : List TypeRef) :
    levelsIn types = types.foldr (fun type most => max type.levels most) 0 := by
  induction types with
  | nil => rfl
  | cons type rest inductionHypothesis => rw [levelsIn, inductionHypothesis, List.foldr_cons]

theorem levels_lt_of_mem_args {type argument : TypeRef} (member : argument ∈ type.args) :
    argument.levels < type.levels := by
  obtain ⟨path, args⟩ := type
  rw [levels, levelsIn_eq_foldr]
  exact Nat.lt_succ_of_le (le_foldr_max levels member)

theorem toValues_eq_map (types : List TypeRef) : toValues types = types.map toValue := by
  induction types with
  | nil => rfl
  | cons type types inductionHypothesis => rw [toValues, inductionHypothesis, List.map_cons]

theorem toValue_eq (type : TypeRef) :
    type.toValue = .table
      [("path", .ofStrings type.path), ("args", .list (type.args.map toValue))] := by
  obtain ⟨path, args⟩ := type
  rw [toValue, toValues_eq_map]

theorem pathReader_ofStrings (path : List String) :
    reading.pathReader (.ofStrings path) = .valid path := by
  rw [Value.ofStrings, reading.pathReader, List.map_map]
  exact Checked.items_of_valid fun _ _ => rfl

theorem reading_toValue {type : TypeRef} {room : Nat} (fits : type.levels ≤ room) :
    (reading type.toValue room).alone = .valid type := by
  induction type using argumentInduction generalizing room with
  | step type inductionHypothesis =>
    have args : (reading (.list (type.args.map toValue)) (room - 1)).many = .valid type.args := by
      apply Reader.recursive_many_of_valid
      intro argument member
      have deeper := levels_lt_of_mem_args member
      exact inductionHypothesis argument member (by omega)
    obtain ⟨path, arguments⟩ := type
    have enough : 1 ≤ room := by
      rw [levels] at fits
      omega
    rw [toValue_eq, reading, Reader.recursive_table_alone, Checked.within_eq_valid_iff]
    refine ⟨enough, ?_⟩
    dsimp only
    rw [Reader.table_map]
    apply Reader.closed_of_keys
    · rfl
    · decide
    · refine Checked.apply_of_valid (Checked.map_of_valid TypeRef.mk ?_) ?_
      · exact Reader.required_of_lookup rfl (pathReader_ofStrings path)
      · exact Reader.defaultingPart_of_lookup rfl args

theorem declaredReader_toValue {type : TypeRef} {room : Nat} (fits : type.levels < room) :
    declaredReader room type.toValue = .valid type := by
  have inner : type.levels ≤ room - 1 := by omega
  have read : readerIn (room - 1) type.toValue = .valid type := reading_toValue inner
  rw [toValue_eq] at read ⊢
  exact Reader.owned_eq_valid_iff.mpr ⟨by omega, read⟩

end TypeRef

namespace Leaf

theorem toValue_ne_null (leaf : Leaf) : leaf.toValue ≠ .null := by
  simp [toValue]

theorem reader_toValue {leaf : Leaf} (valid : leaf.Valid) : reader leaf.toValue = .valid leaf := by
  refine Checked.obeying_eq_valid_iff.mpr ⟨?_, violation?_eq_none_iff.mpr valid⟩
  rw [toValue]
  apply Reader.closedModel_of_keys
  · rfl
  · decide
  · refine Checked.apply_of_valid (Checked.apply_of_valid (Checked.map_of_valid Leaf.mk ?_) ?_) ?_
    · exact Reader.optional_string_of_lookup rfl
    · exact Reader.optional_string_of_lookup rfl
    · exact Reader.optional_string_of_lookup rfl

end Leaf

theorem Repetition.toValue_ne_null (repetition : Repetition) : repetition.toValue ≠ .null := by
  simp [toValue]

theorem Repetition.reader_toValue (repetition : Repetition) :
    reader repetition.toValue = .valid repetition := by
  rw [toValue, reader]
  apply Reader.closedModel_of_keys
  · rfl
  · decide
  · exact Checked.map_of_valid Repetition.mk rfl

namespace Field

/-- The levels of a field: its own, and those of its delimiter, or one and those of its type. -/
def levels : Field → Nat
  | ⟨_, type, _, delimited, _⟩ =>
    max (type.levels + 1)
      (match delimited with
      | none => 0
      | some delimiter => delimiter.levels) + 1

theorem levels_type_lt (field : Field) : field.type.levels + 1 < field.levels := by
  obtain ⟨name, type, leaf, _ | delimiter, repetition⟩ := field
  · exact Nat.lt_succ_of_le (Nat.le_max_left _ _)
  · exact Nat.lt_succ_of_le (Nat.le_max_left _ _)

theorem levels_lt_of_mem_delimited {field delimiter : Field}
    (delimited : delimiter ∈ field.delimited) : delimiter.levels < field.levels := by
  obtain ⟨name, type, leaf, between, repetition⟩ := field
  cases delimited
  exact Nat.lt_succ_of_le (Nat.le_max_right _ _)

theorem toValue_eq (field : Field) :
    field.toValue = .table
      [("name", .ofOption .string field.name), ("type", field.type.toValue),
        ("leaf", .ofOption Leaf.toValue field.leaf),
        ("delimited", .ofOption toValue field.delimited),
        ("repeat", .ofOption Repetition.toValue field.repetition)] := by
  obtain ⟨name, type, leaf, _ | delimiter, repetition⟩ := field
  · rw [toValue]
    rfl
  · rw [toValue]
    rfl

theorem toValue_ne_null (field : Field) : field.toValue ≠ .null := by
  rw [toValue_eq]
  simp

theorem reading_toValue {field : Field} (valid : field.Valid) {room : Nat}
    (fits : field.levels ≤ room) : (reading field.toValue room).alone = .valid field := by
  induction valid generalizing room with
  | @intro field leaves _ inductionHypothesis =>
    -- One level is the field's own; its type takes one more than its delimiter does.
    have outer := field.levels_type_lt
    have typed : field.type.levels < room - 1 := by omega
    have between : ∀ delimiter ∈ field.delimited,
        (reading delimiter.toValue (room - 1)).alone = .valid delimiter := by
      intro delimiter delimited
      have deeper := levels_lt_of_mem_delimited delimited
      exact inductionHypothesis delimiter delimited (by omega)
    rw [toValue_eq, reading, Reader.recursive_table_alone, Checked.within_eq_valid_iff]
    refine ⟨by omega, ?_⟩
    dsimp only
    rw [Reader.table_map]
    obtain ⟨name, type, leaf, delimited, repetition⟩ := field
    apply Reader.closed_of_keys
    · rfl
    · decide
    · refine Checked.apply_of_valid (Checked.apply_of_valid (Checked.apply_of_valid
        (Checked.apply_of_valid (Checked.map_of_valid Field.mk ?_) ?_) ?_) ?_) ?_
      · exact Reader.optional_string_of_lookup rfl
      · exact Reader.required_of_lookup rfl (TypeRef.declaredReader_toValue typed)
      · apply Reader.optional_of_lookup rfl Leaf.toValue_ne_null
        intro leaf given
        exact Leaf.reader_toValue (leaves leaf given)
      · exact Reader.optionalPart_of_lookup reading rfl toValue_ne_null between
      · apply Reader.optional_of_lookup rfl Repetition.toValue_ne_null
        intro repetition _
        exact repetition.reader_toValue

/-- The levels of fields in a list, each of which takes up one more there. -/
def listLevels (fields : List Field) : Nat :=
  fields.foldr (fun field most => max (field.levels + 1) most) 0

theorem levels_lt_of_mem {fields : List Field} {field : Field} (member : field ∈ fields) :
    field.levels < listLevels fields :=
  le_foldr_max (fun field => field.levels + 1) member

theorem listReader_listValue {fields : List Field} (valid : ValidList fields) {room : Nat}
    (fits : ∀ field ∈ fields, field.levels < room) :
    listReader room (listValue fields) = .valid fields := by
  refine Checked.obeying_eq_valid_iff.mpr ⟨?_, violation?_eq_none_iff.mpr valid.named⟩
  apply Reader.list_of_valid
  intro field member
  have inner := fits field member
  refine Reader.owned_eq_valid_iff.mpr ⟨by omega, ?_⟩
  exact reading_toValue (valid.each field member) (Nat.le_sub_one_of_lt inner)

end Field

theorem precedenceReader_precedenceValue {table : Table} {precedence : Option Level}
    (found : table.lookup "prec_left" = some (precedenceValue precedence)) :
    precedenceReader table = .valid precedence := by
  rw [precedenceReader_eq_valid_iff]
  cases precedence with
  | none => exact .inl ⟨.inr found, rfl⟩
  | some level => exact .inr ⟨level, found, rfl⟩

namespace Record

theorem readerIn_toValue {spec : Record} (valid : Field.ValidList spec.fields) {room : Nat}
    (fits : ∀ field ∈ spec.fields, field.levels < room) :
    readerIn room spec.toValue = .valid spec := by
  rw [toValue]
  apply Reader.closedModel_of_keys
  · rfl
  · decide
  · refine Checked.apply_of_valid (Checked.apply_of_valid (Checked.apply_of_valid
      (Checked.apply_of_valid (Checked.apply_of_valid
        (@Checked.map_of_valid _ _ _ () (fun () => Record.mk) ?_) ?_) ?_) ?_) ?_) ?_
    · exact Reader.defaulting_of_lookup rfl rfl
    · exact Reader.required_of_lookup rfl rfl
    · exact Reader.defaulting_of_lookup rfl (Field.listReader_listValue valid fits)
    · exact precedenceReader_precedenceValue rfl
    · exact Reader.defaulting_of_lookup rfl rfl
    · exact Reader.defaulting_of_lookup rfl rfl

end Record

namespace Variant

theorem readerIn_toValue {variant : Variant} (valid : Field.ValidList variant.fields) {room : Nat}
    (fits : ∀ field ∈ variant.fields, field.levels < room) :
    readerIn room variant.toValue = .valid variant := by
  rw [toValue]
  apply Reader.closedModel_of_keys
  · rfl
  · decide
  · refine Checked.apply_of_valid
      (Checked.apply_of_valid (Checked.map_of_valid Variant.mk ?_) ?_) ?_
    · exact Reader.required_of_lookup rfl rfl
    · exact Reader.defaulting_of_lookup rfl (Field.listReader_listValue valid fits)
    · exact precedenceReader_precedenceValue rfl

end Variant

namespace TaggedUnion

theorem variantsReader_toValues {variants : List Variant} (valid : ValidVariants variants)
    {room : Nat} (fits : ∀ variant ∈ variants, ∀ field ∈ variant.fields, field.levels < room) :
    variantsReader room (.list (variants.map Variant.toValue)) = .valid variants := by
  refine Checked.obeying_eq_valid_iff.mpr ⟨?_, violation?_eq_none_iff.mpr valid.named⟩
  refine Checked.andThen_eq_valid_iff.mpr ⟨variants, ?_, ?_⟩
  · apply Reader.list_of_valid
    intro variant member
    exact Variant.readerIn_toValue (valid.each variant member) (fits variant member)
  · rw [if_neg]
    simpa using valid.some

theorem readerIn_toValue {spec : TaggedUnion} (valid : ValidVariants spec.variants) {room : Nat}
    (fits : ∀ variant ∈ spec.variants, ∀ field ∈ variant.fields, field.levels < room) :
    readerIn room spec.toValue = .valid spec := by
  rw [toValue]
  apply Reader.closedModel_of_keys
  · rfl
  · decide
  · refine Checked.apply_of_valid (Checked.apply_of_valid (Checked.apply_of_valid
      (Checked.apply_of_valid
        (@Checked.map_of_valid _ _ _ () (fun () => TaggedUnion.mk) ?_) ?_) ?_) ?_) ?_
    · exact Reader.defaulting_of_lookup rfl rfl
    · exact Reader.required_of_lookup rfl rfl
    · exact Reader.required_of_lookup rfl (variantsReader_toValues valid fits)
    · exact Reader.defaulting_of_lookup rfl rfl
    · exact Reader.defaulting_of_lookup rfl rfl

end TaggedUnion

namespace Definition

def levels : Definition → Nat
  | .record spec => Field.listLevels spec.fields
  | .union spec => Field.listLevels (spec.variants.flatMap Variant.fields)

theorem readerIn_toValue {definition : Definition} (valid : definition.Valid) {room : Nat}
    (fits : definition.levels ≤ room) : readerIn room definition.toValue = .valid definition := by
  cases definition with
  | record spec =>
    have read : Record.readerIn room spec.toValue = .valid spec := by
      apply Record.readerIn_toValue valid
      intro field member
      exact Nat.lt_of_lt_of_le (Field.levels_lt_of_mem member) fits
    exact Checked.inside_eq_valid_iff.mpr (Checked.map_eq_valid_iff.mpr ⟨spec, read, rfl⟩)
  | union spec =>
    have read : TaggedUnion.readerIn room spec.toValue = .valid spec := by
      apply TaggedUnion.readerIn_toValue valid
      intro variant given field member
      have listed := List.mem_flatMap.mpr ⟨variant, given, member⟩
      exact Nat.lt_of_lt_of_le (Field.levels_lt_of_mem listed) fits
    exact Checked.inside_eq_valid_iff.mpr (Checked.map_eq_valid_iff.mpr ⟨spec, read, rfl⟩)

end Definition

namespace SchemaModule

def definitionLevels (definitions : List Definition) : Nat :=
  definitions.foldr (fun definition most => max definition.levels most) 0

mutual

/-- The levels of a module: one, and those of its definitions or of the modules in it. -/
def levels : SchemaModule → Nat
  | ⟨_, _, definitions, modules⟩ => max (definitionLevels definitions) (levelsIn modules) + 1

def levelsIn : List SchemaModule → Nat
  | [] => 0
  | spec :: rest => max (levels spec) (levelsIn rest)

end

theorem levelsIn_eq_foldr (specs : List SchemaModule) :
    levelsIn specs = specs.foldr (fun spec most => max spec.levels most) 0 := by
  induction specs with
  | nil => rfl
  | cons spec rest inductionHypothesis => rw [levelsIn, inductionHypothesis, List.foldr_cons]

theorem levels_pos (spec : SchemaModule) : 0 < spec.levels := by
  obtain ⟨name, grammar, definitions, modules⟩ := spec
  exact Nat.succ_pos _

theorem levels_lt_of_mem_modules {spec inner : SchemaModule} (member : inner ∈ spec.modules) :
    inner.levels < spec.levels := by
  obtain ⟨name, grammar, definitions, modules⟩ := spec
  rw [levels, levelsIn_eq_foldr]
  have least := le_foldr_max levels member
  exact Nat.lt_succ_of_le (Nat.le_trans least (Nat.le_max_right _ _))

theorem levels_lt_of_mem_definitions {spec : SchemaModule} {definition : Definition}
    (member : definition ∈ spec.definitions) : definition.levels < spec.levels := by
  obtain ⟨name, grammar, definitions, modules⟩ := spec
  have least := le_foldr_max Definition.levels member
  exact Nat.lt_succ_of_le (Nat.le_trans least (Nat.le_max_left _ _))

theorem toValues_eq_map (specs : List SchemaModule) : toValues specs = specs.map toValue := by
  induction specs with
  | nil => rfl
  | cons spec specs inductionHypothesis => rw [toValues, inductionHypothesis, List.map_cons]

theorem toValue_eq (spec : SchemaModule) :
    spec.toValue = .table
      [("name", .string spec.name), ("grammar", .ofOption .string spec.grammar),
        ("definitions", .list (spec.definitions.map Definition.toValue)),
        ("modules", .list (spec.modules.map toValue))] := by
  obtain ⟨name, grammar, definitions, modules⟩ := spec
  rw [toValue, toValues_eq_map]

theorem reading_toValue {spec : SchemaModule} (valid : spec.Valid) {room : Nat}
    (fits : spec.levels ≤ room) : (reading spec.toValue room).alone = .valid spec := by
  induction valid generalizing room with
  | @intro spec named valid _ inductionHypothesis =>
    have positive := spec.levels_pos
    have definitions : Reader.list (Definition.readerIn (room - 1))
        (.list (spec.definitions.map Definition.toValue)) = .valid spec.definitions := by
      apply Reader.list_of_valid
      intro definition member
      have deeper := levels_lt_of_mem_definitions member
      exact Definition.readerIn_toValue (valid definition member) (by omega)
    have modules : (reading (.list (spec.modules.map toValue)) (room - 1)).many =
        .valid spec.modules := by
      apply Reader.recursive_many_of_valid
      intro inner member
      have deeper := levels_lt_of_mem_modules member
      exact inductionHypothesis inner member (by omega)
    rw [toValue_eq, reading, Reader.recursive_table_alone, Checked.within_eq_valid_iff]
    refine ⟨by omega, ?_⟩
    dsimp only
    rw [Reader.table_map]
    obtain ⟨name, grammar, outerDefinitions, innerModules⟩ := spec
    apply Reader.closed_of_keys
    · rfl
    · decide
    · refine Checked.apply_of_valid (Checked.apply_of_valid (Checked.apply_of_valid
        (Checked.map_of_valid SchemaModule.mk ?_) ?_) ?_) ?_
      · exact Reader.defaulting_of_lookup rfl rfl
      · apply Reader.optional_of_lookup rfl (by simp)
        intro name given
        exact grammarNameReader_eq_valid_iff.mpr ⟨rfl, named name given⟩
      · exact Reader.defaulting_of_lookup rfl definitions
      · exact Reader.defaultingPart_of_lookup rfl modules

theorem ofValue_eq_ok_iff {file : Option FilePath} {document : Value} {spec : SchemaModule} :
    ofValue file document = .ok spec ↔ readerIn deepestLevel document = .valid spec := by
  have limited : reader document = readerIn deepestLevel document := rfl
  rw [ofValue, limited]
  cases readerIn deepestLevel document <;> simp

/-- Exactly the valid schemas are read: whatever the value is, the schema that it describes is
valid, and every valid schema comes back from its own form when there is room for its levels. A
document is read in the same way, with a limited room. -/
theorem reader_yields_exactly_valid :
    (∀ room value spec, readerIn room value = .valid spec → spec.Valid) ∧
    (∀ room spec, Valid spec → spec.levels ≤ room → readerIn room spec.toValue = .valid spec) ∧
    (∀ file document spec,
      ofValue file document = .ok spec ↔ readerIn deepestLevel document = .valid spec) ∧
    (∀ room value spec, Record.readerIn room value = .valid spec →
      ∃ table, value = .table table ∧ GivesLevel table spec.precedence) ∧
    ∀ room value variant, Variant.readerIn room value = .valid variant →
      ∃ table, value = .table table ∧ GivesLevel table variant.precedence := by
  refine ⟨?_, ?_, ?_, ?_, ?_⟩
  · intro room value spec read
    exact (reading_yields_valid value room).alone spec read
  · intro room spec valid fits
    exact reading_toValue valid fits
  · intro file document spec
    exact ofValue_eq_ok_iff
  · intro room value spec read
    obtain ⟨table, same, _, level⟩ := Record.exists_of_readerIn read
    exact ⟨table, same, level⟩
  · intro room value variant read
    obtain ⟨table, same, _, level⟩ := Variant.exists_of_readerIn read
    exact ⟨table, same, level⟩

/-- A document that leaves out what it can. -/
def listDocument : Value :=
  let delimiter : Value :=
    .table [("type", .table [("path", .list [])]), ("leaf", .table [("text", .string ",")])]
  let items : Value :=
    .table
      [("type", .table
          [("path", .list [.string "Vec"]),
            ("args", .list [.table [("path", .list [.string "Item"])]])]),
        ("delimited", delimiter)]
  let letters : Value :=
    .table
      [("name", .string "letters"), ("type", .table [("path", .list [.string "String"])]),
        ("leaf", .table [("pattern", .string "[a-z]+")])]
  .table
    [("modules", .list
      [.table
        [("grammar", .string "list"),
          ("definitions", .list
            [.table
              [("kind", .string "record"), ("name", .string "Items"), ("fields", .list [items]),
                ("prec_left", .integer 7), ("language", .bool true)],
              .table
                [("kind", .string "union"), ("name", .string "Item"),
                  ("variants", .list
                    [.table [("name", .string "Word"), ("fields", .list [letters])],
                      .table [("name", .string "Empty")]])]])]])]

def listSchema : SchemaModule :=
  ⟨"root", none, [],
    [⟨"root", some "list",
      [.record ⟨"Items",
        [⟨none, ⟨["Vec"], [⟨["Item"], []⟩]⟩, none,
          some ⟨none, ⟨[], []⟩, some ⟨none, some ",", none⟩, none, none⟩, none⟩],
        some 7, false, true⟩,
       .union ⟨"Item",
        [⟨"Word",
          [⟨some "letters", ⟨["String"], []⟩, some ⟨some "[a-z]+", none, none⟩, none, none⟩],
          none⟩,
         ⟨"Empty", [], none⟩],
        false, false⟩],
      []⟩]⟩

theorem listDocument_reads_back :
    ofValue none listDocument = .ok listSchema ∧ listSchema.Valid ∧
      ofValue none listSchema.toValue = .ok listSchema := by
  obtain ⟨valid, back, documents, _⟩ := reader_yields_exactly_valid
  have read : readerIn deepestLevel listDocument = .valid listSchema := by
    with_unfolding_all rfl
  have sound := valid _ _ _ read
  refine ⟨(documents _ _ _).mpr read, sound, (documents _ _ _).mpr (back _ _ sound ?_)⟩
  decide

end SchemaModule

end SchemaGrammar
