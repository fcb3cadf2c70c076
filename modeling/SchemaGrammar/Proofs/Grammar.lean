import SchemaGrammar.Proofs.Record
import SchemaGrammar.Schema.Compile
set_option autoImplicit false

/-!
Compiling a grammar, inverted once: `compile_eq_ok_iff` lists what a successful compilation has
seen, namely an identifier, one root, an emission that comes to its end, and names that are
distinct from each other and from the start rule. Nothing else can make it fail, since every
definition emits a rule of its own name.
-/

namespace SchemaGrammar

namespace Definition

/-- The last entry of a definition is its own rule. -/
theorem exists_of_rule_yields {definition : Definition} {entries : List Entry} {rule : Rule}
    (yields : definition.rule.Yields entries rule) :
    ∃ front, entries = front ++ [⟨definition.name, rule, definition.name⟩] := by
  cases definition with
  | record spec =>
    obtain ⟨_, terminals, _, _, _, _, rfl⟩ := recordWith_yields_iff.mp yields
    exact ⟨terminals, rfl⟩
  | union spec =>
    obtain ⟨front, _, _, rfl⟩ := TaggedUnion.rule_yields_iff.mp yields
    exact ⟨front, rfl⟩

/-- What a definition emits is a part of what the definitions emit together. -/
theorem exists_of_mem {definitions : List Definition} {definition : Definition}
    {entries : List Entry} (yields : (rules definitions).Yields entries ())
    (member : definition ∈ definitions) :
    ∃ before own rule after, definition.rule.Yields own rule ∧
      entries = before ++ own ++ after := by
  induction definitions generalizing entries with
  | nil => simp at member
  | cons first rest inductionHypothesis =>
    obtain ⟨front, rule, back, opening, closing, rfl⟩ := rules_cons_yields_iff.mp yields
    rcases List.mem_cons.mp member with rfl | member
    · exact ⟨[], front, rule, back, opening, by simp⟩
    · obtain ⟨before, own, found, after, emitted, rfl⟩ := inductionHypothesis closing member
      exact ⟨front ++ before, own, found, after, emitted, by simp⟩

theorem root_eq_ok_iff {definitions : List Definition} {root : Definition} :
    Definition.root definitions = .ok root ↔ definitions.filter language = [root] := by
  unfold Definition.root
  rcases definitions.filter language with _ | ⟨first, _ | ⟨second, rest⟩⟩ <;> simp

end Definition

namespace Draft

theorem fillStart_eq_ok_iff {root : String} {draft next : Draft} :
    draft.fillStart root = .ok next ↔
      ∃ rule, draft.get? root = some rule ∧ next = { draft with start := some rule } := by
  unfold fillStart
  rcases draft.get? root with _ | rule <;> simp [eq_comm]

theorem finish_eq_ok_iff {draft : Draft} {rules : List (String × Rule)} :
    draft.finish = .ok rules ↔ ∃ rule, draft.start = some rule ∧
      rules = (startRule, rule) :: draft.entries.map fun entry => (entry.name, entry.rule) := by
  unfold finish
  rcases draft.start with _ | rule <;> simp [eq_comm]

/-- Before the start rule is filled in, the rules of a draft are those of its entries. -/
theorem get?_eq_some_iff {draft : Draft} {name : String} {rule : Rule}
    (distinct : draft.names.Nodup) (unset : draft.start = none) :
    draft.get? name = some rule ↔
      ∃ entry ∈ draft.entries, entry.name = name ∧ entry.rule = rule := by
  constructor
  · intro found
    unfold get? at found
    split at found
    · simp [unset] at found
    · obtain ⟨entry, listed, rfl⟩ := Option.map_eq_some_iff.mp found
      refine ⟨entry, List.mem_of_find?_eq_some listed, ?_, rfl⟩
      simpa using List.find?_some listed
  · intro listed
    rcases listed with ⟨entry, member, rfl, rfl⟩
    exact get?_of_mem distinct member

theorem fresh_new_iff {grammar : String} {entries : List Entry} :
    (new grammar).Fresh entries ↔ (startRule :: entries.map Entry.name).Nodup := by
  rw [List.nodup_cons]
  constructor
  · intro fresh
    rcases fresh with ⟨unknown, distinct⟩
    refine ⟨?_, distinct⟩
    intro reserved
    obtain ⟨entry, member, equality⟩ := List.mem_map.mp reserved
    exact unknown entry member (by simp [equality])
  · intro nodup
    rcases nodup with ⟨reserved, distinct⟩
    refine ⟨?_, distinct⟩
    intro entry member known
    rw [names_new, List.mem_singleton] at known
    exact reserved (List.mem_map.mpr ⟨entry, member, known⟩)

end Draft

theorem lookup_eq_some_iff_mem {entries : List (String × Rule)} {key : String} {rule : Rule}
    (distinct : (entries.map Prod.fst).Nodup) :
    entries.lookup key = some rule ↔ (key, rule) ∈ entries := by
  induction entries with
  | nil => simp
  | cons entry rest inductionHypothesis =>
    obtain ⟨name, first⟩ := entry
    rw [List.map_cons, List.nodup_cons] at distinct
    rw [List.lookup_cons, List.mem_cons]
    by_cases same : key = name
    · subst same
      have absent : (key, rule) ∉ rest :=
        fun listed => distinct.1 (List.mem_map.mpr ⟨_, listed, rfl⟩)
      simp [absent, eq_comm]
    · have unequal : (key == name) = false := by simpa using same
      simp [unequal, same, inductionHypothesis distinct.2]

namespace Grammar

/-- An identifier is not blank, so the only names that are accepted are identifiers. -/
theorem checkedName_eq_ok_iff {name : Value} {text : String} :
    checkedName name = .ok text ↔ name = .string text ∧ TypeRef.isIdentifier text = true := by
  unfold checkedName
  split <;> rename_i given
  · constructor
    · intro checked
      split at checked
      · simp at checked
      split at checked
      · simp_all
      · simp at checked
    · rintro ⟨⟨⟩, identifier⟩
      have visible : ¬ text.toList.all Text.isBlank = true := by
        unfold TypeRef.isIdentifier at identifier
        split at identifier <;> rename_i characters
        · rw [characters, List.all_cons, Bool.and_eq_true]
          intro allBlank
          rcases allBlank with ⟨blank, _⟩
          rw [Bool.and_eq_true] at identifier
          have := TypeRef.isBlank_of_isIdentifierStart identifier.1
          simp_all
        · simp at identifier
      simp [visible, identifier]
  · simp_all

theorem unlocated_eq_ok_iff {Data : Type} {result : Except SchemaFault Data} {data : Data} :
    unlocated result = .ok data ↔ result = .ok data :=
  mapError_eq_ok_iff

theorem draft_eq_ok_iff {name root : String} {definitions : List Definition} {draft : Draft} :
    Grammar.draft name root definitions = .ok draft ↔
      ∃ entries rule, (Definition.rules definitions).Yields entries () ∧
        (startRule :: entries.map Entry.name).Nodup ∧
        (∃ entry ∈ entries, entry.name = root ∧ entry.rule = rule) ∧
        draft = ⟨name, some rule, entries⟩ := by
  unfold Grammar.draft
  constructor
  · intro made
    split at made <;> rename_i absorbed
    · obtain ⟨entries, yields, fresh, rfl⟩ := Draft.absorb_eq_ok_iff.mp absorbed
      have distinct := Draft.fresh_new_iff.mp fresh
      obtain ⟨rule, found, rfl⟩ := Draft.fillStart_eq_ok_iff.mp made
      exact ⟨entries, rule, yields, distinct,
        (Draft.get?_eq_some_iff (by simpa using distinct) rfl).mp found, rfl⟩
    · simp at made
  · intro conditions
    rcases conditions with ⟨entries, rule, yields, distinct, found, rfl⟩
    have fresh : (Draft.new name).Fresh entries := Draft.fresh_new_iff.mpr distinct
    have absorbed : (Draft.new name).absorb id (Definition.rules definitions) =
        ((Draft.new name).append entries, .ok ()) :=
      Draft.absorb_eq_ok_iff.mpr ⟨entries, yields, fresh, rfl⟩
    rw [absorbed]
    exact Draft.fillStart_eq_ok_iff.mpr
      ⟨rule, (Draft.get?_eq_some_iff (by simpa using distinct) rfl).mpr found, rfl⟩

/-- What a successful compilation has seen, and the grammar it makes of it. -/
theorem compile_eq_ok_iff {name : Value} {definitions : List Definition} {grammar : Grammar} :
    compile name definitions = .ok grammar ↔
      ∃ text root entries rule, name = .string text ∧ TypeRef.isIdentifier text = true ∧
        definitions.filter Definition.language = [root] ∧
        (Definition.rules definitions).Yields entries () ∧
        (startRule :: entries.map Entry.name).Nodup ∧
        (∃ entry ∈ entries, entry.name = root.name ∧ entry.rule = rule) ∧
        grammar = ⟨text, (startRule, rule) :: entries.map fun entry => (entry.name, entry.rule),
          extraNames definitions⟩ := by
  unfold compile
  simp only [bind_eq_ok_iff, unlocated_eq_ok_iff, checkedName_eq_ok_iff,
    Definition.root_eq_ok_iff, draft_eq_ok_iff, Draft.finish_eq_ok_iff]
  constructor
  · rintro ⟨text, ⟨rfl, identifier⟩, root, marked, _, ⟨entries, rule, yields, distinct, found, rfl⟩,
      _, ⟨_, ⟨⟩, rfl⟩, ⟨⟩⟩
    exact ⟨text, root, entries, rule, rfl, identifier, marked, yields, distinct, found, rfl⟩
  · intro conditions
    rcases conditions with
      ⟨text, root, entries, rule, rfl, identifier, marked, yields, distinct, found, rfl⟩
    exact ⟨text, ⟨rfl, identifier⟩, root, marked, _, ⟨entries, rule, yields, distinct, found, rfl⟩,
      _, ⟨rule, rfl, rfl⟩, rfl⟩

/-- The rules of a compiled grammar have distinct names. -/
theorem nodup_of_compile {name : Value} {definitions : List Definition} {grammar : Grammar}
    (compiled : compile name definitions = .ok grammar) : (grammar.rules.map Prod.fst).Nodup := by
  obtain ⟨_, _, entries, _, _, _, _, _, distinct, _, rfl⟩ := compile_eq_ok_iff.mp compiled
  simpa [Function.comp_def] using distinct

theorem rule?_eq_some_iff {name : Value} {definitions : List Definition} {grammar : Grammar}
    (compiled : compile name definitions = .ok grammar) {key : String} {rule : Rule} :
    grammar.rule? key = some rule ↔ (key, rule) ∈ grammar.rules :=
  lookup_eq_some_iff_mem (nodup_of_compile compiled)

end Grammar

end SchemaGrammar
