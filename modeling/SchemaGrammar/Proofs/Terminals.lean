import Mathlib.Data.List.Nodup
import SchemaGrammar.Proofs.Symbols
set_option autoImplicit false

/-!
Terminals are neither lost nor shared. `occurrences` lists all fields in some definitions, those of
delimiters included, each under its path. The terminal rules of a grammar are those of the fields
that carry a terminal, one rule for each field in the same order; each is referred to by the rule of
its record or variant, and no terminal stands inside another rule.
-/

namespace SchemaGrammar

namespace Rule

def isTerminal : Rule → Bool
  | pattern _ | string _ => true
  | _ => false

mutual

/-- The terminals in a rule, at any depth. -/
@[simp]
def terminals : Rule → List Rule
  | pattern value => [pattern value]
  | string value => [string value]
  | seq members => terminalsIn members
  | choice members => terminalsIn members
  | .repeat content => terminals content
  | repeat1 content => terminals content
  | field _ content => terminals content
  | precLeft _ content => terminals content
  | symbol _ => []
  | blank => []

@[simp]
def terminalsIn : List Rule → List Rule
  | [] => []
  | rule :: rest => terminals rule ++ terminalsIn rest

end

theorem terminalsIn_symbol_map {Data : Type} (name : Data → String) (items : List Data) :
    terminalsIn (items.map fun item => symbol (name item)) = [] := by
  induction items with
  | nil => simp
  | cons item rest inductionHypothesis => simp [inductionHypothesis]

theorem terminals_repetition {identity name : String} {delimiter : Option Rule} {nonEmpty : Bool}
    (bare : ∀ rule ∈ delimiter, rule.terminals = []) :
    (repetition (.field identity (.symbol name)) delimiter nonEmpty).terminals = [] := by
  rcases delimiter with _ | rule <;> cases nonEmpty
  all_goals simp_all [repetition, optional]

theorem terminals_member {identity : String} {kind : ShapeKind} {fragment : Rule}
    (bare : fragment.terminals = []) : (member identity kind fragment).terminals = [] := by
  cases kind <;> simp [member, optional, bare]

theorem terminals_record {members : List Rule} (bare : terminalsIn members = [])
    (level : Option Level) : (record members level).terminals = [] := by
  cases level <;> simp [record, bare]

theorem isTerminal_record (members : List Rule) (level : Option Level) :
    (record members level).isTerminal = false := by
  cases level <;> rfl

end Rule

theorem Terminal.isTerminal_rule (terminal : Terminal) : terminal.rule.isTerminal = true := by
  cases terminal <;> rfl

/-- A field that occurs in a record or a variant, by itself or as a delimiter, and its path. -/
structure Occurrence where
  owner : String
  path : String
  field : Field

namespace Occurrence

/-- The rule that the leaf of the field asks for. Only one of its pattern and its text is given in a
schema that has been read. -/
def rule? (occurrence : Occurrence) : Option Rule :=
  match occurrence.field.leaf with
  | some ⟨some pattern, _, _⟩ => some (.pattern pattern)
  | some ⟨none, some text, _⟩ => some (.string text)
  | some ⟨none, none, _⟩ => none
  | none => none

def entry? (occurrence : Occurrence) : Option Entry :=
  occurrence.rule?.map fun rule => ⟨occurrence.path, rule, occurrence.owner⟩

theorem rule?_eq (occurrence : Occurrence) :
    occurrence.rule? = occurrence.field.terminal?.map Terminal.rule := by
  obtain ⟨owner, path, field⟩ := occurrence
  rcases leaf : field.leaf with _ | ⟨_ | pattern, _ | text, transform⟩
  all_goals simp [rule?, Field.terminal?, Leaf.terminal?, Terminal.rule, leaf]

theorem isTerminal_of_rule? {occurrence : Occurrence} {rule : Rule}
    (carried : occurrence.rule? = some rule) : rule.isTerminal = true := by
  rw [rule?_eq] at carried
  obtain ⟨terminal, _, rfl⟩ := Option.map_eq_some_iff.mp carried
  exact terminal.isTerminal_rule

end Occurrence

namespace Field

/-- A field and the delimiters in it. -/
def occurrences (owner path : String) : Field → List Occurrence
  | ⟨name, type, leaf, delimited, repetition⟩ =>
    ⟨owner, path, ⟨name, type, leaf, delimited, repetition⟩⟩ ::
      match delimited with
      | none => []
      | some delimiter => delimiter.occurrences owner (path ++ "_delimiter")

theorem occurrences_of_undelimited {field : Field} (owner path : String)
    (undelimited : field.delimited = none) :
    field.occurrences owner path = [⟨owner, path, field⟩] := by
  rcases field with ⟨name, type, leaf, _ | delimiter, repetition⟩
  · rw [occurrences]
  · cases undelimited

theorem occurrences_of_delimited {field delimiter : Field} (owner path : String)
    (delimited : field.delimited = some delimiter) :
    field.occurrences owner path =
      ⟨owner, path, field⟩ :: delimiter.occurrences owner (path ++ "_delimiter") := by
  rcases field with ⟨name, type, leaf, _ | between, repetition⟩
  · cases delimited
  · cases delimited
    rw [occurrences]

/-- What compiling a field emits are the rules of its leaf and of those of its delimiters. -/
theorem Compiles.entries_eq_filterMap {source path identity : String} {field : Field}
    {entries : List Entry} {shape : TypeShape} {rule : Rule}
    (compiles : Compiles source path identity field entries shape rule) :
    entries = (field.occurrences source path).filterMap Occurrence.entry? := by
  induction compiles with
  | terminal single terminal =>
    rw [occurrences_of_undelimited _ _ single.undelimited]
    simp [Occurrence.entry?, Occurrence.rule?_eq, terminal]
  | reference single plain bare =>
    rw [occurrences_of_undelimited _ _ single.undelimited]
    simp [Occurrence.entry?, Occurrence.rule?_eq, plain]
  | items listed delimited bare =>
    rw [occurrences_of_undelimited _ _ delimited]
    simp [Occurrence.entry?, Occurrence.rule?_eq, listed.plain]
  | delimited listed delimited _ bare inductionHypothesis =>
    rw [occurrences_of_delimited _ _ delimited, inductionHypothesis]
    simp [Occurrence.entry?, Occurrence.rule?_eq, listed.plain]

theorem owner_of_mem_occurrences {owner path : String} {field : Field} {occurrence : Occurrence}
    (occurs : occurrence ∈ field.occurrences owner path) : occurrence.owner = owner := by
  induction path, field using occurrences.induct with
  | case1 path name type leaf delimited repetition inductionHypothesis =>
    rcases delimited with _ | delimiter
    · rw [occurrences_of_undelimited owner path rfl, List.mem_singleton] at occurs
      rw [occurs]
    · rw [occurrences_of_delimited owner path rfl] at occurs
      rcases List.mem_cons.mp occurs with rfl | occurs
      · rfl
      · exact inductionHypothesis occurs

theorem Compiles.terminals_eq_nil {source path identity : String} {field : Field}
    {entries : List Entry} {shape : TypeShape} {rule : Rule}
    (compiles : Compiles source path identity field entries shape rule) : rule.terminals = [] := by
  induction compiles with
  | terminal single terminal => simp
  | reference single plain bare => simp
  | items listed delimited bare => exact Rule.terminals_repetition (by simp)
  | delimited listed delimited _ bare inductionHypothesis =>
    exact Rule.terminals_repetition (by simpa using inductionHypothesis)

theorem MembersCompile.entries_eq_filterMap {path : String} {position : Nat} {fields : List Field}
    {entries : List Entry} {members : List Rule}
    (compile : MembersCompile path position fields entries members) :
    entries = ((fields.zipIdx position).flatMap fun (field, index) =>
      field.occurrences path (field.qualifiedPath path index)).filterMap Occurrence.entry? := by
  induction compile with
  | nil => simp
  | cons compiles _ inductionHypothesis =>
    rw [List.zipIdx_cons, List.flatMap_cons, List.filterMap_append, ← inductionHypothesis,
      ← compiles.entries_eq_filterMap]

theorem MembersCompile.terminals_eq_nil {path : String} {position : Nat} {fields : List Field}
    {entries : List Entry} {members : List Rule}
    (compile : MembersCompile path position fields entries members) :
    Rule.terminalsIn members = [] := by
  induction compile with
  | nil => simp
  | cons compiles _ inductionHypothesis =>
    simp [Rule.terminals_member compiles.terminals_eq_nil, inductionHypothesis]

end Field

/-- The fields that occur in a record or a variant. -/
def recordOccurrences (path : String) (fields : List Field) : List Occurrence :=
  fields.zipIdx.flatMap fun (field, position) =>
    field.occurrences path (field.qualifiedPath path position)

theorem owner_of_mem_recordOccurrences {path : String} {fields : List Field}
    {occurrence : Occurrence} (occurs : occurrence ∈ recordOccurrences path fields) :
    occurrence.owner = path := by
  obtain ⟨_, _, occurs⟩ := List.mem_flatMap.mp occurs
  exact Field.owner_of_mem_occurrences occurs

/-- The terminals among the entries are the rules of the leaves that occur, in their order. They are
referred to by the entries of their owners, and no other entry has a terminal in it. -/
structure Holds (entries : List Entry) (occurrences : List Occurrence) : Prop where
  terminals : entries.filter (fun entry => entry.rule.isTerminal) =
    occurrences.filterMap Occurrence.entry?
  bare : ∀ entry ∈ entries, entry.rule.isTerminal = true ∨ entry.rule.terminals = []
  referred : ∀ occurrence ∈ occurrences, occurrence.rule?.isSome = true →
    ∃ entry ∈ entries, entry.name = occurrence.owner ∧ occurrence.path ∈ entry.rule.symbols

namespace Holds

theorem nil : Holds [] [] :=
  ⟨rfl, by simp, by simp⟩

theorem append {front back : List Entry} {first second : List Occurrence}
    (opening : Holds front first) (closing : Holds back second) :
    Holds (front ++ back) (first ++ second) := by
  constructor
  · rw [List.filter_append, List.filterMap_append, opening.terminals, closing.terminals]
  · intro entry listed
    rcases List.mem_append.mp listed with listed | listed
    · exact opening.bare entry listed
    · exact closing.bare entry listed
  · intro occurrence listed carrying
    rcases List.mem_append.mp listed with listed | listed
    · obtain ⟨entry, member, found⟩ := opening.referred occurrence listed carrying
      exact ⟨entry, List.mem_append_left back member, found⟩
    · obtain ⟨entry, member, found⟩ := closing.referred occurrence listed carrying
      exact ⟨entry, List.mem_append_right front member, found⟩

/-- An entry without terminals changes nothing. -/
theorem concat {entries : List Entry} {occurrences : List Occurrence}
    (holds : Holds entries occurrences) {entry : Entry} (compound : entry.rule.isTerminal = false)
    (bare : entry.rule.terminals = []) : Holds (entries ++ [entry]) occurrences := by
  have single : Holds [entry] [] := ⟨by simp [compound], by simp [bare], by simp⟩
  simpa using holds.append single

/-- The entries of a record are the rules of the leaves in it and its own rule. -/
theorem record {Error : Type} {lift : SchemaError → Error} {path : String} {fields : List Field}
    {level : Except Error (Option Level)} {entries : List Entry} {rule : Rule}
    (yields : (recordWith lift path fields level).Yields entries rule) :
    Holds entries (recordOccurrences path fields) := by
  obtain ⟨precedence, leaves, members, _, compile, rfl, rfl⟩ := recordWith_yields_iff.mp yields
  have emitted : leaves = (recordOccurrences path fields).filterMap Occurrence.entry? :=
    compile.entries_eq_filterMap
  have terminal : ∀ entry ∈ leaves, entry.rule.isTerminal = true := by
    rw [emitted]
    intro entry listed
    obtain ⟨occurrence, _, made⟩ := List.mem_filterMap.mp listed
    obtain ⟨rule, carried, rfl⟩ := Option.map_eq_some_iff.mp made
    exact Occurrence.isTerminal_of_rule? carried
  constructor
  · rw [List.filter_append, List.filter_eq_self.mpr terminal, ← emitted]
    simp [Rule.isTerminal_record]
  · intro entry listed
    rcases List.mem_append.mp listed with listed | listed
    · exact .inl (terminal entry listed)
    · rw [List.mem_singleton.mp listed]
      exact .inr (Rule.terminals_record compile.terminals_eq_nil precedence)
  · intro occurrence occurs carrying
    refine ⟨_, List.mem_append_right leaves (List.mem_singleton.mpr rfl),
      (owner_of_mem_recordOccurrences occurs).symm, ?_⟩
    obtain ⟨rule, carried⟩ := Option.isSome_iff_exists.mp carrying
    rw [Rule.symbols_record, compile.mem_symbols_iff]
    left
    rw [emitted, List.mem_map]
    refine ⟨⟨occurrence.path, rule, occurrence.owner⟩, ?_, rfl⟩
    exact List.mem_filterMap.mpr ⟨occurrence, occurs, by rw [Occurrence.entry?, carried]; rfl⟩

end Holds

namespace TaggedUnion

def variantOccurrences (union : TaggedUnion) (variants : List Variant) : List Occurrence :=
  variants.flatMap fun variant => recordOccurrences (union.variantPath variant) variant.fields

theorem holds_of_variants {union : TaggedUnion} {variants : List Variant} {entries : List Entry}
    (yields : (union.variantRules variants).Yields entries ()) :
    Holds entries (union.variantOccurrences variants) := by
  induction variants generalizing entries with
  | nil =>
    rw [variantRules_nil_yields_iff.mp yields]
    exact .nil
  | cons variant rest inductionHypothesis =>
    obtain ⟨front, rule, back, opening, closing, rfl⟩ := variantRules_cons_yields_iff.mp yields
    rw [variantOccurrences, List.flatMap_cons]
    exact (Holds.record opening).append (inductionHypothesis closing)

end TaggedUnion

namespace Definition

def occurrencesOf : Definition → List Occurrence
  | .record spec => recordOccurrences spec.name spec.fields
  | .union spec => spec.variantOccurrences spec.variants

/-- The fields that occur in some definitions. -/
def occurrences (definitions : List Definition) : List Occurrence :=
  definitions.flatMap occurrencesOf

theorem holds_of_rule {definition : Definition} {entries : List Entry} {rule : Rule}
    (yields : definition.rule.Yields entries rule) : Holds entries definition.occurrencesOf := by
  cases definition with
  | record spec => exact .record yields
  | union spec =>
    obtain ⟨front, variants, rfl, rfl⟩ := TaggedUnion.rule_yields_iff.mp yields
    apply (TaggedUnion.holds_of_variants variants).concat rfl
    rw [Rule.terminals, Rule.terminalsIn_symbol_map]

theorem holds_of_rules {definitions : List Definition} {entries : List Entry}
    (yields : (rules definitions).Yields entries ()) : Holds entries (occurrences definitions) := by
  induction definitions generalizing entries with
  | nil =>
    rw [rules_nil_yields_iff.mp yields]
    exact .nil
  | cons definition rest inductionHypothesis =>
    obtain ⟨front, rule, back, opening, closing, rfl⟩ := rules_cons_yields_iff.mp yields
    rw [occurrences, List.flatMap_cons]
    exact (holds_of_rule opening).append (inductionHypothesis closing)

theorem isTerminal_of_rule {definition : Definition} {entries : List Entry} {rule : Rule}
    (yields : definition.rule.Yields entries rule) : rule.isTerminal = false := by
  cases definition with
  | record spec =>
    obtain ⟨precedence, _, members, _, _, rfl, _⟩ := recordWith_yields_iff.mp yields
    exact Rule.isTerminal_record members precedence
  | union spec =>
    obtain ⟨_, _, rfl, _⟩ := TaggedUnion.rule_yields_iff.mp yields
    rfl

/-- The rules of the leaves in some definitions, by the paths of their fields. -/
def terminals (definitions : List Definition) : List (String × Rule) :=
  (occurrences definitions).filterMap fun occurrence =>
    occurrence.rule?.map fun rule => (occurrence.path, rule)

theorem terminals_eq (definitions : List Definition) :
    terminals definitions = ((occurrences definitions).filterMap Occurrence.entry?).map
      fun entry => (entry.name, entry.rule) := by
  rw [List.map_filterMap, terminals]
  simp only [Occurrence.entry?, Option.map_map]
  rfl

end Definition

namespace Grammar

theorem isTerminal_of_root {definitions : List Definition} {root : Definition}
    {entries : List Entry} {entry : Entry} (yields : (Definition.rules definitions).Yields entries ())
    (distinct : (entries.map Entry.name).Nodup) (member : root ∈ definitions)
    (listed : entry ∈ entries) (named : entry.name = root.name) :
    entry.rule.isTerminal = false := by
  obtain ⟨before, own, rule, after, opening, rfl⟩ := Definition.exists_of_mem yields member
  obtain ⟨front, rfl⟩ := Definition.exists_of_rule_yields opening
  have same : entry = ⟨root.name, rule, root.name⟩ :=
    List.inj_on_of_nodup_map distinct listed (by simp) named
  rw [same]
  exact Definition.isTerminal_of_rule opening

/-- The terminals among the rules of a grammar are those of the leaves in the definitions, each
under the path of its field. The record or variant of the field refers to it, and no terminal stands
inside another rule. -/
theorem terminals_of_compile {name : Value} {definitions : List Definition} {grammar : Grammar}
    (compiled : compile name definitions = .ok grammar) :
    grammar.rules.filter (fun entry => entry.2.isTerminal) = Definition.terminals definitions ∧
    (startRule :: (Definition.terminals definitions).map Prod.fst).Nodup ∧
    (∀ occurrence ∈ Definition.occurrences definitions, ∀ rule, occurrence.rule? = some rule →
      grammar.rule? occurrence.path = some rule ∧
      ∃ owner, grammar.rule? occurrence.owner = some owner ∧ occurrence.path ∈ owner.symbols) ∧
    ∀ entry ∈ grammar.rules, entry.2.isTerminal = true ∨ entry.2.terminals = [] := by
  have registered (key : String) (rule : Rule) :
      grammar.rule? key = some rule ↔ (key, rule) ∈ grammar.rules :=
    rule?_eq_some_iff compiled
  have distinct := nodup_of_compile compiled
  obtain ⟨_, root, entries, _, _, _, marked, yields, apart, ⟨start, listed, named, rfl⟩, rfl⟩ :=
    compile_eq_ok_iff.mp compiled
  have holds := Definition.holds_of_rules yields
  -- The start rule is the rule of the root once more, and that is no terminal.
  have compound : start.rule.isTerminal = false := by
    have member : root ∈ definitions.filter Definition.language := by rw [marked]; simp
    exact isTerminal_of_root yields (List.nodup_cons.mp apart).2 (List.mem_filter.mp member).1
      listed named
  have terminals : (entries.map fun entry => (entry.name, entry.rule)).filter
      (fun entry => entry.2.isTerminal) = Definition.terminals definitions := by
    rw [Definition.terminals_eq, ← holds.terminals, List.filter_map]
    rfl
  refine ⟨?_, ?_, ?_, ?_⟩
  · rw [List.filter_cons_of_neg (by simp [compound]), terminals]
  · rw [← terminals]
    have sublist := (List.filter_sublist (p := fun entry : String × Rule => entry.2.isTerminal)
      (l := entries.map fun entry => (entry.name, entry.rule))).map Prod.fst
    exact (sublist.cons_cons startRule).nodup distinct
  · intro occurrence occurs rule carried
    constructor
    · rw [registered]
      have found : (occurrence.path, rule) ∈ Definition.terminals definitions :=
        List.mem_filterMap.mpr ⟨occurrence, occurs, by rw [carried]; rfl⟩
      rw [← terminals] at found
      exact List.mem_cons_of_mem _ (List.mem_filter.mp found).1
    · obtain ⟨entry, member, owned, refers⟩ :=
        holds.referred occurrence occurs (Option.isSome_iff_exists.mpr ⟨rule, carried⟩)
      refine ⟨entry.rule, (registered _ _).mpr ?_, refers⟩
      rw [← owned]
      exact List.mem_cons_of_mem _ (List.mem_map_of_mem member)
  · intro entry member
    rcases List.mem_cons.mp member with rfl | member
    · exact holds.bare start listed
    · obtain ⟨made, emitted, rfl⟩ := List.mem_map.mp member
      exact holds.bare made emitted

/-- Sums of numbers and of sums in parentheses; the leaf of an inner sum is a transform alone. -/
def sumDefinitions : List Definition :=
  [.record ⟨"Sum",
    [⟨some "terms", ⟨["Vec"], [⟨["Term"], []⟩]⟩, none,
      some ⟨none, ⟨[], []⟩, some ⟨none, some "+", none⟩, none, none⟩, some ⟨true⟩⟩],
    some 1, false, true⟩,
   .union ⟨"Term",
    [⟨"Number", [⟨none, ⟨["u32"], []⟩, some ⟨some "[0-9]+", none, some "parse"⟩, none, none⟩],
      none⟩,
     ⟨"Nested",
      [⟨some "open", ⟨[], []⟩, some ⟨none, some "(", none⟩, none, none⟩,
       ⟨some "sum", ⟨["Sum"], []⟩, some ⟨none, none, some "boxed"⟩, none, none⟩,
       ⟨some "close", ⟨[], []⟩, some ⟨none, some ")", none⟩, none, none⟩],
      none⟩],
    false, false⟩]

/-- The four leaves with a pattern or a text have a rule each, and no other terminal exists. -/
theorem sumDefinitions_terminals :
    ∃ grammar, compile (.string "sum") sumDefinitions = .ok grammar ∧
      grammar.rules.filter (fun entry => entry.2.isTerminal) =
        [("Sum_terms_delimiter", .string "+"), ("Term_Number_0", .pattern "[0-9]+"),
          ("Term_Nested_open", .string "("), ("Term_Nested_close", .string ")")] := by
  have compiled : compile (.string "sum") sumDefinitions = .ok _ := rfl
  exact ⟨_, compiled, (terminals_of_compile compiled).1⟩

end Grammar

end SchemaGrammar
