import SchemaGrammar.Proofs.Acceptance
set_option autoImplicit false

/-!
The symbols in the rules of a grammar. A symbol is either made up by the compiler, for a terminal or
a variant, or it is the name of a definition that the type of a field refers to. Those of the first
kind always lead to a rule, so that a grammar is closed exactly when all references do.
-/

namespace SchemaGrammar

namespace Rule

mutual

/-- The names of the symbols in a rule, at any depth. -/
@[simp]
def symbols : Rule → List String
  | symbol name => [name]
  | seq members => symbolsIn members
  | choice members => symbolsIn members
  | .repeat content => symbols content
  | repeat1 content => symbols content
  | field _ content => symbols content
  | precLeft _ content => symbols content
  | pattern _ => []
  | string _ => []
  | blank => []

@[simp]
def symbolsIn : List Rule → List String
  | [] => []
  | rule :: rest => symbols rule ++ symbolsIn rest

end

theorem symbolsIn_symbol_map {Data : Type} (name : Data → String) (items : List Data) :
    symbolsIn (items.map fun item => symbol (name item)) = items.map name := by
  induction items with
  | nil => rfl
  | cons item rest inductionHypothesis => simp [inductionHypothesis]

theorem symbols_record (members : List Rule) (level : Option Level) :
    (record members level).symbols = symbolsIn members := by
  cases level <;> simp [record]

theorem symbols_optional (rule : Rule) : (optional rule).symbols = rule.symbols := by
  simp [optional]

theorem symbols_member (identity : String) (kind : ShapeKind) (fragment : Rule) :
    (member identity kind fragment).symbols = fragment.symbols := by
  cases kind <;> simp [member, symbols_optional]

theorem mem_symbols_repetition_none {identity name symbol : String} {nonEmpty : Bool} :
    symbol ∈ (repetition (.field identity (.symbol name)) none nonEmpty).symbols ↔
      symbol = name := by
  cases nonEmpty <;> simp [repetition]

theorem mem_symbols_repetition_some {identity name symbol : String} {delimiter : Rule}
    {nonEmpty : Bool} :
    symbol ∈ (repetition (.field identity (.symbol name)) (some delimiter) nonEmpty).symbols ↔
      symbol = name ∨ symbol ∈ delimiter.symbols := by
  cases nonEmpty <;> simp [repetition, symbols_optional] <;> grind

end Rule

theorem Terminal.symbols_rule (terminal : Terminal) : terminal.rule.symbols = [] := by
  cases terminal <;> simp [Terminal.rule]

/-- The definition that a type refers to, seen through indirections and an option or a list. -/
def TypeRef.reference? (type : TypeRef) : Option String :=
  match type.shape with
  | .ok shape => shape.target.bareName?
  | .error _ => none

theorem TypeRef.reference?_of_shape {type : TypeRef} {shape : TypeShape}
    (shaped : type.shape = .ok shape) : type.reference? = shape.target.bareName? := by
  simp only [reference?, shaped]

namespace Field

/-- The definitions that a field refers to: that of its type, unless the field is a terminal, and
those of its delimiter. -/
def references : Field → List String
  | ⟨_, type, leaf, delimited, _⟩ =>
    (match leaf.bind Leaf.terminal? with
      | some _ => []
      | none => type.reference?.toList) ++
    match delimited with
    | none => []
    | some delimiter => delimiter.references

theorem references_of_terminal {field : Field} {terminal : Terminal}
    (carried : field.terminal? = some terminal) (undelimited : field.delimited = none) :
    field.references = [] := by
  rcases field with ⟨name, type, leaf, _ | delimiter, repetition⟩
  · unfold terminal? at carried
    simp [references, carried]
  · simp at undelimited

theorem references_of_plain {field : Field} {shape : TypeShape} {name : String}
    (plain : field.terminal? = none) (shaped : field.type.shape = .ok shape)
    (bare : shape.target.bareName? = some name) :
    field.references = name :: (field.delimited.map references).getD [] := by
  rcases field with ⟨_, type, leaf, _ | delimiter, repetition⟩ <;>
    · unfold terminal? at plain
      simp [references, plain, TypeRef.reference?_of_shape shaped, bare]

/-- The symbols in the fragment of a field are the terminal that the field emits and the
definitions that it refers to. -/
theorem Compiles.mem_symbols_iff {source path identity : String} {field : Field}
    {entries : List Entry} {shape : TypeShape} {rule : Rule}
    (compiles : Compiles source path identity field entries shape rule) {symbol : String} :
    symbol ∈ rule.symbols ↔
      symbol ∈ entries.map Entry.name ∨ symbol ∈ field.references := by
  induction compiles with
  | terminal single terminal =>
    simp [references_of_terminal terminal single.undelimited]
  | reference single plain bare =>
    simp [references_of_plain plain single.shaped bare, single.undelimited]
  | items listed delimited bare =>
    rw [Rule.mem_symbols_repetition_none, references_of_plain listed.plain listed.shaped bare]
    simp [delimited]
  | delimited listed delimited _ bare inductionHypothesis =>
    rw [Rule.mem_symbols_repetition_some, inductionHypothesis,
      references_of_plain listed.plain listed.shaped bare]
    simp [delimited, or_left_comm]

theorem Compiles.symbols_of_mem {source path identity : String} {field : Field}
    {entries : List Entry} {shape : TypeShape} {rule : Rule}
    (compiles : Compiles source path identity field entries shape rule) :
    ∀ entry ∈ entries, entry.rule.symbols = [] := by
  rw [compiles.entries_eq]
  intro entry emitted
  obtain ⟨⟨depth, terminal⟩, _, rfl⟩ :=
    Option.map_eq_some_iff.mp (Option.mem_toList.mp emitted)
  exact terminal.symbols_rule

theorem MembersCompile.mem_symbols_iff {path : String} {position : Nat} {fields : List Field}
    {entries : List Entry} {members : List Rule}
    (compile : MembersCompile path position fields entries members) {symbol : String} :
    symbol ∈ Rule.symbolsIn members ↔
      symbol ∈ entries.map Entry.name ∨ symbol ∈ fields.flatMap references := by
  induction compile with
  | nil => simp
  | cons compiles _ inductionHypothesis =>
    simp only [Rule.symbolsIn, List.mem_append, Rule.symbols_member, compiles.mem_symbols_iff,
      inductionHypothesis, List.map_append, List.flatMap_cons]
    exact or_or_or_comm

theorem MembersCompile.symbols_of_mem {path : String} {position : Nat} {fields : List Field}
    {entries : List Entry} {members : List Rule}
    (compile : MembersCompile path position fields entries members) :
    ∀ entry ∈ entries, entry.rule.symbols = [] := by
  induction compile with
  | nil => simp
  | cons compiles _ inductionHypothesis =>
    intro entry emitted
    rcases List.mem_append.mp emitted with first | later
    · exact compiles.symbols_of_mem entry first
    · exact inductionHypothesis entry later

end Field

/-- The names of the terminals of a record, in the order of its fields. -/
def terminalNames (path : String) (fields : List Field) : List String :=
  fields.zipIdx.filterMap fun (field, position) => field.terminalName? path position

def Entry.symbolsOf (entries : List Entry) : List String :=
  entries.flatMap fun entry => entry.rule.symbols

theorem mem_symbols_of_record {Error : Type} {lift : SchemaError → Error} {path : String}
    {fields : List Field} {level : Except Error (Option Level)} {entries : List Entry} {rule : Rule}
    (yields : (recordWith lift path fields level).Yields entries rule) {symbol : String} :
    symbol ∈ Entry.symbolsOf entries ↔
      symbol ∈ terminalNames path fields ∨ symbol ∈ fields.flatMap Field.references := by
  obtain ⟨_, terminals, members, _, compile, rfl, rfl⟩ := recordWith_yields_iff.mp yields
  have silent : terminals.flatMap (fun entry => entry.rule.symbols) = [] :=
    List.flatMap_eq_nil_iff.mpr compile.symbols_of_mem
  rw [Entry.symbolsOf, List.flatMap_append, silent, List.flatMap_singleton, List.nil_append,
    Rule.symbols_record, compile.mem_symbols_iff, compile.names_eq, terminalNames]

namespace TaggedUnion

theorem mem_symbols_of_variants {union : TaggedUnion} {variants : List Variant}
    {entries : List Entry} (yields : (union.variantRules variants).Yields entries ())
    {symbol : String} :
    symbol ∈ Entry.symbolsOf entries ↔
      symbol ∈ variants.flatMap (fun variant =>
        terminalNames (union.variantPath variant) variant.fields) ∨
      symbol ∈ (variants.flatMap Variant.fields).flatMap Field.references := by
  induction variants generalizing entries with
  | nil =>
    rw [variantRules_nil_yields_iff.mp yields]
    simp [Entry.symbolsOf]
  | cons variant rest inductionHypothesis =>
    obtain ⟨front, rule, back, opening, closing, rfl⟩ := variantRules_cons_yields_iff.mp yields
    have first : symbol ∈ Entry.symbolsOf front ↔ _ := mem_symbols_of_record opening
    have others := inductionHypothesis closing
    simp only [Entry.symbolsOf, List.flatMap_append, List.flatMap_cons, List.mem_append]
      at first others ⊢
    rw [first, others]
    exact or_or_or_comm

end TaggedUnion

namespace Definition

/-- The names that compiling a definition makes up, for its terminals and its variants. -/
def synthesizedNames : Definition → List String
  | .record spec => terminalNames spec.name spec.fields
  | .union spec => spec.variantNames spec.variants

theorem emittedNames_eq (definition : Definition) :
    definition.emittedNames = definition.synthesizedNames ++ [definition.name] := by
  cases definition <;> rfl

/-- The symbols that compiling some definitions makes up. -/
def synthesized (definitions : List Definition) : List String :=
  definitions.flatMap synthesizedNames

/-- The definitions that the fields of some definitions refer to. -/
def references (definitions : List Definition) : List String :=
  (definitions.flatMap fields).flatMap Field.references

theorem mem_symbols_of_rule {definition : Definition} {entries : List Entry} {rule : Rule}
    (yields : definition.rule.Yields entries rule) {symbol : String} :
    symbol ∈ Entry.symbolsOf entries ↔
      symbol ∈ definition.synthesizedNames ∨
        symbol ∈ definition.fields.flatMap Field.references := by
  cases definition with
  | record spec => exact mem_symbols_of_record yields
  | union spec =>
    obtain ⟨front, variants, rfl, rfl⟩ := TaggedUnion.rule_yields_iff.mp yields
    have inVariants : symbol ∈ Entry.symbolsOf front ↔ _ :=
      TaggedUnion.mem_symbols_of_variants variants
    simp only [Entry.symbolsOf, List.flatMap_append, List.flatMap_singleton, List.mem_append,
      Rule.symbols, Rule.symbolsIn_symbol_map] at inVariants ⊢
    rw [inVariants]
    simp only [synthesizedNames, fields, TaggedUnion.variantNames, recordNames, terminalNames,
      List.mem_flatMap, List.mem_append, List.mem_map, List.mem_singleton]
    grind

theorem mem_symbols_of_rules {definitions : List Definition} {entries : List Entry}
    (yields : (rules definitions).Yields entries ()) {symbol : String} :
    symbol ∈ Entry.symbolsOf entries ↔
      symbol ∈ synthesized definitions ∨ symbol ∈ references definitions := by
  induction definitions generalizing entries with
  | nil =>
    rw [rules_nil_yields_iff.mp yields]
    simp [Entry.symbolsOf, synthesized, references]
  | cons definition rest inductionHypothesis =>
    obtain ⟨front, rule, back, opening, closing, rfl⟩ := rules_cons_yields_iff.mp yields
    have first : symbol ∈ Entry.symbolsOf front ↔ _ := mem_symbols_of_rule opening
    have others := inductionHypothesis closing
    simp only [Entry.symbolsOf, synthesized, references, List.flatMap_append, List.flatMap_cons,
      List.mem_append] at first others ⊢
    rw [first, others]
    exact or_or_or_comm

end Definition

namespace Grammar

def names (grammar : Grammar) : List String := grammar.rules.map Prod.fst

/-- The symbols in the rules of a grammar, at any depth. -/
def symbols (grammar : Grammar) : List String :=
  grammar.rules.flatMap fun (_, rule) => rule.symbols

/-- Every symbol leads to a rule, and so does every extra. -/
structure Closed (grammar : Grammar) : Prop where
  symbols : ∀ symbol ∈ grammar.symbols, symbol ∈ grammar.names
  extras : ∀ extra ∈ grammar.extras, extra ∈ grammar.names

/-- The start rule of a compiled grammar adds no symbol, for it is the rule of the root. -/
theorem mem_symbols_iff {name : Value} {definitions : List Definition} {grammar : Grammar}
    (compiled : compile name definitions = .ok grammar) {symbol : String} :
    symbol ∈ grammar.symbols ↔
      symbol ∈ Definition.synthesized definitions ∨ symbol ∈ Definition.references definitions := by
  obtain ⟨_, _, entries, rule, _, _, _, yields, _, ⟨entry, listed, _, rfl⟩, rfl⟩ :=
    compile_eq_ok_iff.mp compiled
  rw [← Definition.mem_symbols_of_rules yields, Entry.symbolsOf, symbols]
  simp only [List.flatMap_cons, List.flatMap_map, List.mem_append, or_iff_right_iff_imp]
  intro inStart
  exact List.mem_flatMap.mpr ⟨entry, listed, inStart⟩

theorem names_eq {name : Value} {definitions : List Definition} {grammar : Grammar}
    (compiled : compile name definitions = .ok grammar) :
    grammar.names = startRule :: Definition.emissionList definitions := by
  obtain ⟨_, _, entries, _, _, _, _, yields, _, _, rfl⟩ := compile_eq_ok_iff.mp compiled
  simp [names, ← (Definition.emissionList_of_yields yields).1, Function.comp_def]

theorem mem_names_of_emitted {name : Value} {definitions : List Definition} {grammar : Grammar}
    (compiled : compile name definitions = .ok grammar) {definition : Definition} {symbol : String}
    (member : definition ∈ definitions) (emitted : symbol ∈ definition.emittedNames) :
    symbol ∈ grammar.names := by
  rw [names_eq compiled]
  exact List.mem_cons_of_mem _ (List.mem_flatMap.mpr ⟨definition, member, emitted⟩)

/-- The start rule is the rule of the one root. -/
theorem start_eq_root {name : Value} {definitions : List Definition} {grammar : Grammar}
    (compiled : compile name definitions = .ok grammar) :
    ∃ root rule, definitions.filter Definition.language = [root] ∧
      grammar.rule? startRule = some rule ∧ grammar.rule? root.name = some rule := by
  have registered (key : String) (rule : Rule) :
      grammar.rule? key = some rule ↔ (key, rule) ∈ grammar.rules :=
    rule?_eq_some_iff compiled
  obtain ⟨_, root, entries, rule, _, _, marked, _, _, ⟨entry, listed, named, same⟩, rfl⟩ :=
    compile_eq_ok_iff.mp compiled
  refine ⟨root, rule, marked, (registered _ _).mpr (by simp), (registered _ _).mpr ?_⟩
  exact List.mem_cons_of_mem _ (List.mem_map.mpr ⟨entry, listed, by rw [named, same]⟩)

/-- The symbols of a compiled grammar are those that the compiler makes up, which all lead to a
rule, and the definitions that the fields refer to. The start rule is the rule of the root, and the
extras are the definitions marked as such, in their order. -/
theorem symbols_of_compile {name : Value} {definitions : List Definition} {grammar : Grammar}
    (compiled : compile name definitions = .ok grammar) :
    (∃ root rule, definitions.filter Definition.language = [root] ∧
      grammar.rule? startRule = some rule ∧ grammar.rule? root.name = some rule) ∧
    grammar.extras = (definitions.filter Definition.extra).map Definition.name ∧
    (∀ extra ∈ grammar.extras, extra ∈ grammar.names) ∧
    (∀ symbol, symbol ∈ grammar.symbols ↔
      symbol ∈ Definition.synthesized definitions ∨ symbol ∈ Definition.references definitions) ∧
    (∀ symbol ∈ Definition.synthesized definitions, symbol ∈ grammar.names) ∧
    (grammar.Closed ↔
      ∀ reference ∈ Definition.references definitions, reference ∈ grammar.names) := by
  have synthesizedNamed : ∀ symbol ∈ Definition.synthesized definitions, symbol ∈ grammar.names := by
    intro symbol synthesized
    obtain ⟨definition, member, synthesized⟩ := List.mem_flatMap.mp synthesized
    apply mem_names_of_emitted compiled member
    rw [Definition.emittedNames_eq]
    exact List.mem_append_left _ synthesized
  have extras : grammar.extras = (definitions.filter Definition.extra).map Definition.name := by
    obtain ⟨_, _, _, _, _, _, _, _, _, _, rfl⟩ := compile_eq_ok_iff.mp compiled
    rfl
  have extrasNamed : ∀ extra ∈ grammar.extras, extra ∈ grammar.names := by
    rw [extras]
    intro extra listed
    obtain ⟨definition, marked, rfl⟩ := List.mem_map.mp listed
    apply mem_names_of_emitted compiled (List.mem_filter.mp marked).1
    rw [Definition.emittedNames_eq]
    exact List.mem_append_right _ (List.mem_singleton.mpr rfl)
  refine ⟨start_eq_root compiled, extras, extrasNamed, fun symbol => mem_symbols_iff compiled,
    synthesizedNamed, ?_⟩
  constructor
  · intro closed reference referred
    exact closed.symbols reference ((mem_symbols_iff compiled).mpr (.inr referred))
  · intro referencesNamed
    refine ⟨?_, extrasNamed⟩
    intro symbol occurs
    rcases (mem_symbols_iff compiled).mp occurs with synthesized | referred
    · exact synthesizedNamed symbol synthesized
    · exact referencesNamed symbol referred

/-- Items between commas. The definition of an item is missing. -/
def itemDefinitions : List Definition :=
  [.record ⟨"Items",
    [⟨none, ⟨["Vec"], [⟨["Box"], [⟨["Item"], []⟩]⟩]⟩, none,
      some ⟨none, ⟨[], []⟩, some ⟨none, some ",", none⟩, none, none⟩, none⟩],
    none, false, true⟩]

/-- The comma has a rule of its own, but an item has none. -/
theorem itemDefinitions_not_closed :
    ∃ grammar, compile (.string "items") itemDefinitions = .ok grammar ∧
      "Items_0_delimiter" ∈ grammar.symbols ∧ "Items_0_delimiter" ∈ grammar.names ∧
      "Item" ∈ grammar.symbols ∧ ¬ grammar.Closed := by
  have compiled : compile (.string "items") itemDefinitions = .ok _ := rfl
  obtain ⟨_, _, _, occurs, resolves, closed⟩ := symbols_of_compile compiled
  have comma : "Items_0_delimiter" ∈ Definition.synthesized itemDefinitions := by decide
  have item : "Item" ∈ Definition.references itemDefinitions := by decide
  refine ⟨_, compiled, (occurs _).mpr (.inl comma), resolves _ comma, (occurs _).mpr (.inr item),
    ?_⟩
  intro isClosed
  exact absurd (closed.mp isClosed "Item" item) (by decide)

end Grammar

end SchemaGrammar
