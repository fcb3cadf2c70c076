import Mathlib.Data.List.Nodup
import Mathlib.Data.List.Perm.Basic
import SchemaGrammar.Proofs.Grammar
set_option autoImplicit false

/-!
Definitions are compiled independently of each other and of their order. What a definition
registers in a draft of its own is what it adds to the draft of a whole grammar, so that names that
occur twice are the only way in which definitions interact. Definitions in another order make a
grammar with the same rule under every name.
-/

namespace SchemaGrammar

/-- Reordered entries with distinct keys hold the same under every key. -/
theorem lookup_eq_of_perm {entries reordered : List (String × Rule)}
    (perm : entries.Perm reordered) (distinct : (entries.map Prod.fst).Nodup) (key : String) :
    entries.lookup key = reordered.lookup key := by
  have reorderedDistinct := (perm.map Prod.fst).nodup_iff.mp distinct
  apply Option.ext
  intro rule
  rw [lookup_eq_some_iff_mem distinct, lookup_eq_some_iff_mem reorderedDistinct, perm.mem_iff]

namespace Definition

/-- A definition compiled into a draft of its own. -/
def alone (grammar : String) (definition : Definition) : Draft × Except SchemaError Rule :=
  (Draft.new grammar).absorb id definition.rule

def CompilesAlone (grammar : String) (definition : Definition) : Prop :=
  ∃ rule, (definition.alone grammar).2 = .ok rule

/-- The rules that a definition registers in a draft of its own. -/
def registered (grammar : String) (definition : Definition) : List (String × Rule) :=
  (definition.alone grammar).1.entries.map fun entry => (entry.name, entry.rule)

/-- No rule of one definition has the name of a rule of the other. -/
def Apart (grammar : String) (first second : Definition) : Prop :=
  ((first.registered grammar).map Prod.fst).Disjoint ((second.registered grammar).map Prod.fst)

theorem compilesAlone_iff {grammar : String} {definition : Definition} :
    definition.CompilesAlone grammar ↔
      (∃ rule, definition.rule.result = .ok rule) ∧
        (startRule :: definition.rule.entries.map Entry.name).Nodup := by
  constructor
  · intro compiles
    obtain ⟨rule, compiled⟩ := compiles
    obtain ⟨entries, yields, fresh, _⟩ :=
      Draft.absorb_eq_ok_iff.mp (Prod.ext rfl compiled : definition.alone grammar = (_, .ok rule))
    rw [yields.entries_eq]
    exact ⟨⟨rule, yields.result_eq⟩, Draft.fresh_new_iff.mp fresh⟩
  · intro conditions
    obtain ⟨⟨rule, finished⟩, distinct⟩ := conditions
    have absorbed : definition.alone grammar = (_, .ok rule) :=
      Draft.absorb_eq_ok_iff.mpr ⟨_, Emission.yields_iff.mpr ⟨rfl, finished⟩,
        Draft.fresh_new_iff.mpr distinct, rfl⟩
    exact ⟨rule, by rw [absorbed]⟩

theorem CompilesAlone.registered_eq {grammar : String} {definition : Definition}
    (compiles : definition.CompilesAlone grammar) :
    definition.registered grammar =
      definition.rule.entries.map fun entry => (entry.name, entry.rule) := by
  obtain ⟨⟨rule, finished⟩, distinct⟩ := compilesAlone_iff.mp compiles
  have absorbed : definition.alone grammar = (_, .ok rule) :=
    Draft.absorb_eq_ok_iff.mpr ⟨_, Emission.yields_iff.mpr ⟨rfl, finished⟩,
      Draft.fresh_new_iff.mpr distinct, rfl⟩
  rw [registered, absorbed]
  rfl

theorem CompilesAlone.names_eq {grammar : String} {definition : Definition}
    (compiles : definition.CompilesAlone grammar) :
    (definition.registered grammar).map Prod.fst = definition.rule.entries.map Entry.name := by
  rw [compiles.registered_eq, List.map_map]
  rfl

theorem exists_registered_name {grammar : String} {definition : Definition}
    (compiles : definition.CompilesAlone grammar) :
    ∃ rule, (definition.name, rule) ∈ definition.registered grammar := by
  obtain ⟨⟨rule, finished⟩, _⟩ := compilesAlone_iff.mp compiles
  obtain ⟨front, same⟩ := exists_of_rule_yields (Emission.yields_iff.mpr ⟨rfl, finished⟩)
  refine ⟨rule, ?_⟩
  rw [compiles.registered_eq, same]
  simp

/-- The definitions together emit what each of them emits, one after the other. -/
theorem rules_yields_iff {definitions : List Definition} {entries : List Entry} :
    (rules definitions).Yields entries () ↔
      (∀ definition ∈ definitions, ∃ rule, definition.rule.result = .ok rule) ∧
        entries = definitions.flatMap fun definition => definition.rule.entries := by
  induction definitions generalizing entries with
  | nil => simp [rules_nil_yields_iff]
  | cons definition rest inductionHypothesis =>
    simp only [rules_cons_yields_iff, inductionHypothesis, List.forall_mem_cons,
      List.flatMap_cons]
    constructor
    · intro parts
      obtain ⟨front, rule, back, opening, ⟨finished, rfl⟩, rfl⟩ := parts
      exact ⟨⟨⟨rule, opening.result_eq⟩, finished⟩, by rw [opening.entries_eq]⟩
    · intro conditions
      obtain ⟨⟨⟨rule, first⟩, others⟩, rfl⟩ := conditions
      exact ⟨_, rule, _, Emission.yields_iff.mpr ⟨rfl, first⟩, ⟨others, rfl⟩, rfl⟩

/-- Names are distinct throughout when they are within each definition and no two definitions
share one. -/
theorem nodup_flatMap_iff {grammar : String} {definitions : List Definition}
    (finished : ∀ definition ∈ definitions, ∃ rule, definition.rule.result = .ok rule) :
    (startRule ::
        (definitions.flatMap fun definition => definition.rule.entries).map Entry.name).Nodup ↔
      (∀ definition ∈ definitions, definition.CompilesAlone grammar) ∧
        definitions.Pairwise (Apart grammar) := by
  have alone : (∀ definition ∈ definitions, definition.CompilesAlone grammar) ↔
      ∀ definition ∈ definitions, startRule ∉ definition.rule.entries.map Entry.name ∧
        (definition.rule.entries.map Entry.name).Nodup := by
    apply forall₂_congr
    intro definition member
    rw [compilesAlone_iff, List.nodup_cons, and_iff_right (finished definition member)]
  rw [List.nodup_cons, List.map_flatMap, List.nodup_flatMap]
  constructor
  · intro distinct
    obtain ⟨unreserved, within, between⟩ := distinct
    have compiles := alone.mpr fun definition member =>
      ⟨fun reserved => unreserved (List.mem_flatMap.mpr ⟨definition, member, reserved⟩),
        within definition member⟩
    refine ⟨compiles, between.imp_of_mem ?_⟩
    intro first second isFirst isSecond disjoint
    rw [Apart, (compiles first isFirst).names_eq, (compiles second isSecond).names_eq]
    exact disjoint
  · intro conditions
    obtain ⟨compiles, apart⟩ := conditions
    refine ⟨?_, fun definition member => (alone.mp compiles definition member).2,
      apart.imp_of_mem ?_⟩
    · intro reserved
      obtain ⟨definition, member, reserved⟩ := List.mem_flatMap.mp reserved
      exact (alone.mp compiles definition member).1 reserved
    · intro first second isFirst isSecond disjoint
      rw [Apart, (compiles first isFirst).names_eq, (compiles second isSecond).names_eq]
        at disjoint
      exact disjoint

theorem Apart.symm {grammar : String} {first second : Definition}
    (apart : Apart grammar first second) : Apart grammar second first :=
  List.disjoint_symm apart

theorem flatMap_registered_eq {grammar : String} {definitions : List Definition}
    (compile : ∀ definition ∈ definitions, definition.CompilesAlone grammar) :
    definitions.flatMap (registered grammar) =
      (definitions.flatMap fun definition => definition.rule.entries).map
        fun entry => (entry.name, entry.rule) := by
  rw [List.map_flatMap]
  exact List.flatMap_congr fun definition member => (compile definition member).registered_eq

end Definition

namespace Grammar

open Definition

/-- A grammar is compiled when each definition is compiled alone and no two of them share a name;
its rules are then those that the definitions register alone. -/
theorem compile_string_eq_ok_iff {name : String} {definitions : List Definition}
    {grammar : Grammar} (identifier : TypeRef.isIdentifier name = true) :
    compile (.string name) definitions = .ok grammar ↔
      ∃ root rule, definitions.filter Definition.language = [root] ∧
        (∀ definition ∈ definitions, definition.CompilesAlone name) ∧
        definitions.Pairwise (Apart name) ∧
        (root.name, rule) ∈ definitions.flatMap (registered name) ∧
        grammar = ⟨name, (startRule, rule) :: definitions.flatMap (registered name),
          extraNames definitions⟩ := by
  rw [compile_eq_ok_iff]
  constructor
  · intro compiled
    obtain ⟨text, root, entries, rule, ⟨⟩, _, marked, yields, distinct, found, rfl⟩ := compiled
    obtain ⟨finished, rfl⟩ := rules_yields_iff.mp yields
    obtain ⟨compiles, apart⟩ := (nodup_flatMap_iff finished).mp distinct
    obtain ⟨entry, listed, named, same⟩ := found
    rw [flatMap_registered_eq compiles]
    exact ⟨root, rule, marked, compiles, apart,
      List.mem_map.mpr ⟨entry, listed, by rw [named, same]⟩, rfl⟩
  · intro conditions
    obtain ⟨root, rule, marked, compiles, apart, found, rfl⟩ := conditions
    have finished : ∀ definition ∈ definitions, ∃ rule, definition.rule.result = .ok rule :=
      fun definition member => (compilesAlone_iff.mp (compiles definition member)).1
    rw [flatMap_registered_eq compiles] at found
    obtain ⟨entry, listed, same⟩ := List.mem_map.mp found
    obtain ⟨named, held⟩ := Prod.mk.inj same
    rw [flatMap_registered_eq compiles]
    exact ⟨name, root, _, rule, rfl, identifier, marked, rules_yields_iff.mpr ⟨finished, rfl⟩,
      (nodup_flatMap_iff finished).mpr ⟨compiles, apart⟩, ⟨entry, listed, named, held⟩, rfl⟩

theorem exists_compile_of_perm {name : String} {definitions reordered : List Definition}
    (identifier : TypeRef.isIdentifier name = true) (perm : definitions.Perm reordered)
    (compiles : ∃ grammar, compile (.string name) definitions = .ok grammar) :
    ∃ grammar, compile (.string name) reordered = .ok grammar := by
  obtain ⟨grammar, compiled⟩ := compiles
  obtain ⟨root, rule, marked, alone, apart, found, _⟩ :=
    (compile_string_eq_ok_iff identifier).mp compiled
  have sameRoot : reordered.filter Definition.language = [root] :=
    List.perm_singleton.mp (marked ▸ (perm.filter Definition.language).symm)
  exact ⟨_, (compile_string_eq_ok_iff identifier).mpr ⟨root, rule, sameRoot,
    fun definition member => alone definition (perm.mem_iff.mpr member),
    (perm.pairwise_iff Apart.symm).mp apart,
    (perm.flatMap_right (registered name)).mem_iff.mp found, rfl⟩⟩

/-- The grammar of reordered definitions has the same rules in another order. -/
theorem rules_perm_of_perm {name : String} {definitions reordered : List Definition}
    {grammar other : Grammar} (identifier : TypeRef.isIdentifier name = true)
    (perm : definitions.Perm reordered)
    (compiled : compile (.string name) definitions = .ok grammar)
    (otherCompiled : compile (.string name) reordered = .ok other) :
    grammar.rules.Perm other.rules := by
  have distinct := nodup_of_compile compiled
  obtain ⟨root, rule, marked, _, _, found, rfl⟩ :=
    (compile_string_eq_ok_iff identifier).mp compiled
  obtain ⟨otherRoot, otherRule, otherMarked, _, _, otherFound, rfl⟩ :=
    (compile_string_eq_ok_iff identifier).mp otherCompiled
  have sameRoot : otherRoot = root := by
    have reorderedRoots := perm.filter Definition.language
    rw [marked, otherMarked, List.singleton_perm_singleton] at reorderedRoots
    exact reorderedRoots.symm
  subst sameRoot
  have registeredPerm := perm.flatMap_right (registered name)
  rw [List.map_cons, List.nodup_cons] at distinct
  -- The root's name leads to one rule only, so both start rules are the same.
  have sameRule : some rule = some otherRule := by
    rw [← (lookup_eq_some_iff_mem distinct.2).mpr found]
    exact (lookup_eq_some_iff_mem distinct.2).mpr (registeredPerm.mem_iff.mpr otherFound)
  cases sameRule
  exact registeredPerm.cons _

/-- Which definitions make a grammar is a matter of each of them alone and of the names they
register, and the grammar holds what they register in the order of their declaration. In another
order they make a grammar with the same rule under every name, and with the same extras in the
other order. -/
theorem compile_is_independent_of_order {name : String} {definitions : List Definition}
    (identifier : TypeRef.isIdentifier name = true)
    (single : definitions.countP Definition.language = 1) :
    ((∃ grammar, compile (.string name) definitions = .ok grammar) ↔
      (∀ definition ∈ definitions, definition.CompilesAlone name) ∧
        definitions.Pairwise (Apart name)) ∧
    (∀ grammar, compile (.string name) definitions = .ok grammar →
      ∃ start, grammar.rules = (startRule, start) :: definitions.flatMap (registered name)) ∧
    ∀ reordered, definitions.Perm reordered →
      ((∃ grammar, compile (.string name) definitions = .ok grammar) ↔
        ∃ grammar, compile (.string name) reordered = .ok grammar) ∧
      ∀ grammar other, compile (.string name) definitions = .ok grammar →
        compile (.string name) reordered = .ok other →
        (∀ key, grammar.rule? key = other.rule? key) ∧
        grammar.extras = (definitions.filter Definition.extra).map Definition.name ∧
        other.extras = (reordered.filter Definition.extra).map Definition.name ∧
        grammar.extras.Perm other.extras := by
  refine ⟨⟨?_, ?_⟩, ?_, ?_⟩
  · intro compiles
    obtain ⟨grammar, compiled⟩ := compiles
    obtain ⟨_, _, _, alone, apart, _⟩ := (compile_string_eq_ok_iff identifier).mp compiled
    exact ⟨alone, apart⟩
  · intro conditions
    obtain ⟨alone, apart⟩ := conditions
    rw [List.countP_eq_length_filter, List.length_eq_one_iff] at single
    obtain ⟨root, marked⟩ := single
    have member : root ∈ definitions.filter Definition.language := by simp [marked]
    obtain ⟨rule, found⟩ := exists_registered_name
      (alone root (List.mem_filter.mp member).1)
    exact ⟨_, (compile_string_eq_ok_iff identifier).mpr ⟨root, rule, marked, alone, apart,
      List.mem_flatMap.mpr ⟨root, (List.mem_filter.mp member).1, found⟩, rfl⟩⟩
  · intro grammar compiled
    obtain ⟨_, rule, _, _, _, _, rfl⟩ := (compile_string_eq_ok_iff identifier).mp compiled
    exact ⟨rule, rfl⟩
  · intro reordered perm
    refine ⟨⟨exists_compile_of_perm identifier perm,
      exists_compile_of_perm identifier perm.symm⟩, ?_⟩
    intro grammar other compiled otherCompiled
    have sameRules := rules_perm_of_perm identifier perm compiled otherCompiled
    refine ⟨lookup_eq_of_perm sameRules (nodup_of_compile compiled), ?_⟩
    obtain ⟨_, _, _, _, _, _, rfl⟩ := (compile_string_eq_ok_iff identifier).mp compiled
    obtain ⟨_, _, _, _, _, _, rfl⟩ := (compile_string_eq_ok_iff identifier).mp otherCompiled
    exact ⟨rfl, rfl, (perm.filter Definition.extra).map Definition.name⟩

/-- Words between blanks: the blanks are an extra, and a word is the root. -/
def wordDefinitions : List Definition :=
  [.record ⟨"Word", [⟨some "text", ⟨["String"], []⟩, some ⟨some "[a-z]+", none, none⟩, none, none⟩],
      none, false, true⟩,
    .union ⟨"Blank", [⟨"Space", [⟨none, ⟨[], []⟩, some ⟨none, some " ", none⟩, none, none⟩], none⟩],
      true, false⟩]

/-- The blanks may be declared before the words. -/
theorem reversed_wordDefinitions_compile :
    TypeRef.isIdentifier "words" = true ∧ wordDefinitions.countP Definition.language = 1 ∧
      wordDefinitions.Perm wordDefinitions.reverse ∧
      ∃ grammar other, compile (.string "words") wordDefinitions = .ok grammar ∧
        compile (.string "words") wordDefinitions.reverse = .ok other ∧
        grammar.rules ≠ other.rules ∧ ∀ key, grammar.rule? key = other.rule? key := by
  have identifier : TypeRef.isIdentifier "words" = true := by decide
  have single : wordDefinitions.countP Definition.language = 1 := by decide
  have perm : wordDefinitions.Perm wordDefinitions.reverse := (List.reverse_perm _).symm
  have compiled : compile (.string "words") wordDefinitions = .ok _ := rfl
  have reversed : compile (.string "words") wordDefinitions.reverse = .ok _ := rfl
  obtain ⟨_, _, ordered⟩ := compile_is_independent_of_order identifier single
  exact ⟨identifier, single, perm, _, _, compiled, reversed, by decide,
    ((ordered _ perm).2 _ _ compiled reversed).1⟩

end Grammar

end SchemaGrammar
