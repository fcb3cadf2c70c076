import SchemaGrammar.Proofs.Faults
import SchemaGrammar.Proofs.Grammar
set_option autoImplicit false

/-!
What happens to a draft over a whole run of operations, each of which may succeed or fail. No
operation takes back an entry, only `fillStart` touches the start rule, and the start rule is the
rule of the root that was filled in last. `perform_cases` says once what an operation can do.
`Grows` relates a draft to what becomes of it, and `Filled` is the invariant about the start rule.
-/

namespace SchemaGrammar

namespace Draft

/-- A part of a schema that is compiled on its own. -/
inductive Part where
  | leaf (path source : String) (identity : Option String) (field : Field) (target : TypeRef)
  | fragment (path source identity : String) (field : Field)
  | record (path : String) (fields : List Field) (level : Except (List Problem) (Option Level))
  | union (spec : TaggedUnion)

/-- Everything that can be done with a draft, apart from looking at it. -/
inductive Operation where
  | add (entry : Entry)
  | fillStart (root : String)
  | finish
  | compile (part : Part)

inductive Operation.Fault where
  | schema (error : SchemaError)
  | level (problems : List Problem)

inductive Operation.Answer where
  | done
  | rules (rules : List (String × Rule))
  | rule (rule : Rule)
  | fragment (shape : TypeShape) (rule : Rule)

def Part.emission : Part → Emission Operation.Fault Operation.Answer
  | .leaf path source identity field target => do
    let rule ← (field.leafRule path source identity target).mapError .schema
    pure (.rule rule)
  | .fragment path source identity field => do
    let (shape, rule) ← (field.fragment path source identity).mapError .schema
    pure (.fragment shape rule)
  | .record path fields level => do
    let rule ← recordWith .schema path fields (level.mapError .level)
    pure (.rule rule)
  | .union spec => do
    let rule ← spec.rule.mapError .schema
    pure (.rule rule)

/-- The draft that an operation leaves behind, and what it answers. -/
def perform (draft : Draft) : Operation → Draft × Except Operation.Fault Operation.Answer
  | .add entry =>
    match draft.add entry with
    | .ok next => (next, .ok .done)
    | .error error => (draft, .error (.schema error))
  | .fillStart root =>
    match draft.fillStart root with
    | .ok next => (next, .ok .done)
    | .error error => (draft, .error (.schema error))
  | .finish =>
    match draft.finish with
    | .ok rules => (draft, .ok (.rules rules))
    | .error error => (draft, .error (.schema error))
  | .compile part => draft.absorb .schema part.emission

def run (draft : Draft) (operations : List Operation) : Draft :=
  operations.foldl (fun draft operation => (draft.perform operation).1) draft

/-- The root that an operation fills in, if it does. -/
def filledBy (draft : Draft) (operation : Operation) : List String :=
  match operation, (draft.perform operation).2 with
  | .fillStart root, .ok _ => [root]
  | _, _ => []

/-- The roots that a run fills in, in order. -/
def filledRoots (draft : Draft) : List Operation → List String
  | [] => []
  | operation :: rest => draft.filledBy operation ++ filledRoots (draft.perform operation).1 rest

/-- The last root that is not the start rule itself. -/
def lastRoot? (roots : List String) : Option String :=
  (roots.filter fun root => decide (root ≠ startRule)).getLast?

/-- The name is taken, and an entry that wants it is told so by the name of this owner. -/
def OwnedBy (draft : Draft) (name owner : String) : Prop :=
  (name = startRule ∧ owner = "the start rule") ∨
    ∃ entry ∈ draft.entries, entry.name = name ∧ entry.source = owner

/-! ### One operation -/

/-- An operation appends fresh entries, or it fills in the start rule. -/
theorem perform_cases (draft : Draft) (operation : Operation) :
    (∃ front, draft.Fresh front ∧ (draft.perform operation).1 = draft.append front ∧
        draft.filledBy operation = []) ∨
      ∃ root rule, operation = .fillStart root ∧ draft.get? root = some rule ∧
        draft.perform operation = ({ draft with start := some rule }, .ok .done) := by
  cases operation with
  | add entry =>
    refine .inl ?_
    rcases added : draft.add entry with error | next
    · exact ⟨[], fresh_nil draft, by simp [perform, added], rfl⟩
    · obtain ⟨unknown, rfl⟩ := add_eq_ok_iff.mp added
      exact ⟨[entry], fresh_cons_iff.mpr ⟨unknown, fresh_nil _⟩, by simp [perform, added], rfl⟩
  | fillStart root =>
    rcases filled : draft.fillStart root with error | next
    · exact .inl ⟨[], fresh_nil draft, by simp [perform, filled],
        by simp [filledBy, perform, filled]⟩
    · obtain ⟨rule, found, rfl⟩ := fillStart_eq_ok_iff.mp filled
      exact .inr ⟨root, rule, rfl, found, by simp [perform, filled]⟩
  | finish =>
    refine .inl ⟨[], fresh_nil draft, ?_, rfl⟩
    rcases finished : draft.finish with error | rules <;> simp [perform, finished]
  | compile part =>
    -- A part that fails may have added some of its entries before.
    obtain ⟨front, _, fresh, reached | ⟨_, _, reached⟩⟩ := absorb_cases .schema part.emission draft
    · exact .inl ⟨front, fresh, by rw [perform, reached], rfl⟩
    · exact .inl ⟨front, fresh, by rw [perform, reached], rfl⟩

theorem get?_of_prefix {before after : Draft} {name : String} {rule : Rule}
    (grown : before.entries <+: after.entries) (ordinary : name ≠ startRule)
    (found : before.get? name = some rule) : after.get? name = some rule := by
  obtain ⟨back, same⟩ := grown
  rw [get?, if_neg ordinary] at found ⊢
  obtain ⟨entry, listed, rfl⟩ := Option.map_eq_some_iff.mp found
  rw [ entry?] at listed ⊢
  rw [← same, List.find?_append, listed, Option.some_or, Option.map_some]

theorem nodup_append {draft : Draft} {entries : List Entry} (distinct : draft.names.Nodup)
    (fresh : draft.Fresh entries) : (draft.append entries).names.Nodup := by
  rw [names_append, List.nodup_append]
  refine ⟨distinct, fresh.distinct, ?_⟩
  rintro name known _ added rfl
  obtain ⟨entry, member, rfl⟩ := List.mem_map.mp added
  exact fresh.new entry member known

/-- The start rule is the rule of the root that was filled in last. -/
inductive Filled (draft : Draft) : List String → Prop where
  | unfilled : draft.start = none → Filled draft []
  | filled {roots : List String} {root : String} {rule : Rule} :
      lastRoot? roots = some root → draft.get? root = some rule → draft.start = some rule →
      Filled draft roots

theorem lastRoot?_append_start (roots : List String) :
    lastRoot? (roots ++ [startRule]) = lastRoot? roots := by
  simp [lastRoot?]

theorem lastRoot?_append_of_ne {root : String} (roots : List String) (ordinary : root ≠ startRule) :
    lastRoot? (roots ++ [root]) = some root := by
  simp [lastRoot?, ordinary]

theorem Filled.append {draft : Draft} {roots : List String} (filled : draft.Filled roots)
    (entries : List Entry) : (draft.append entries).Filled roots := by
  cases filled with
  | unfilled unset => exact .unfilled unset
  | @filled _ root _ last found started =>
    refine .filled last ?_ started
    by_cases reserved : root = startRule
    · subst reserved
      exact found
    · exact get?_of_prefix (List.prefix_append draft.entries entries) reserved found

theorem Filled.fillStart {draft : Draft} {roots : List String} {root : String} {rule : Rule}
    (filled : draft.Filled roots) (found : draft.get? root = some rule) :
    ({ draft with start := some rule } : Draft).Filled (roots ++ [root]) := by
  by_cases reserved : root = startRule
  · -- The start rule filled in with itself stays as it is, and so does the last root.
    subst reserved
    have started : draft.start = some rule := found
    have same : ({ draft with start := some rule } : Draft) = draft := by rw [← started]
    rw [same]
    cases filled with
    | unfilled unset => simp [unset] at started
    | filled last registered start =>
      exact .filled (by rw [lastRoot?_append_start]; exact last) registered start
  · refine .filled (lastRoot?_append_of_ne roots reserved) ?_ rfl
    have same : draft.entries <+: draft.entries := List.prefix_rfl
    exact get?_of_prefix same reserved found

theorem perform_filled {draft : Draft} {roots : List String} (filled : draft.Filled roots)
    (operation : Operation) :
    (draft.perform operation).1.Filled (roots ++ draft.filledBy operation) := by
  rcases draft.perform_cases operation with
    ⟨front, _, reached, nothing⟩ | ⟨root, rule, rfl, found, reached⟩
  · rw [reached, nothing, List.append_nil]
    exact filled.append front
  · simp only [filledBy, reached]
    exact filled.fillStart found

/-- The draft has the same entries in the same order, and perhaps more behind them. -/
structure Grows (before after : Draft) : Prop where
  grammar : after.grammar = before.grammar
  entries : before.entries <+: after.entries
  nodup : before.names.Nodup → after.names.Nodup

theorem perform_grows (draft : Draft) (operation : Operation) :
    draft.Grows (draft.perform operation).1 := by
  rcases draft.perform_cases operation with ⟨front, fresh, reached, _⟩ | ⟨_, rule, _, _, reached⟩
  · rw [reached]
    exact ⟨rfl, List.prefix_append draft.entries front, fun distinct => nodup_append distinct fresh⟩
  · rw [reached]
    exact ⟨rfl, List.prefix_rfl, id⟩

/-! ### Names that are taken -/

theorem ownedBy_of_mem {draft : Draft} {name : String} (distinct : draft.names.Nodup)
    (taken : name ∈ draft.names) :
    draft.OwnedBy name
      (((draft.entry? name).map Entry.source).getD "the start rule") := by
  rcases List.mem_cons.mp taken with rfl | listed
  · have absent : draft.entry? startRule = none := by
      rw [ entry?, List.find?_eq_none]
      intro entry member same
      exact (List.nodup_cons.mp distinct).1 (List.mem_map.mpr ⟨entry, member, by simpa using same⟩)
    exact .inl ⟨rfl, by rw [absent]; rfl⟩
  · obtain ⟨entry, member, rfl⟩ := List.mem_map.mp listed
    have found : draft.entry? entry.name = some entry :=
      find?_of_mem (List.nodup_cons.mp distinct).2 member
    exact .inr ⟨entry, member, rfl, by rw [found]; rfl⟩

/-- The message that an entry gets whose name is taken. -/
theorem exists_owner_of_mem {draft : Draft} {entry : Entry} (distinct : draft.names.Nodup)
    (taken : entry.name ∈ draft.names) :
    ∃ owner, draft.OwnedBy entry.name owner ∧ (draft.duplicate entry).fault.message =
      s!"Duplicate rule '{entry.name}' in grammar '{draft.grammar}': already defined by {owner}" :=
  ⟨_, ownedBy_of_mem distinct taken, rfl⟩

/-- What is compiled never takes notice of the names in a draft. -/
theorem Part.isDuplicate_of_emission {part : Part} {error : SchemaError}
    (failed : part.emission.result = .error (.schema error)) : error.fault.isDuplicate = false := by
  have lifted {Data : Type} {emission : Emission SchemaError Data}
      {next : Data → Emission Operation.Fault Operation.Answer} (placed : emission.Placed)
      (silent : ∀ data, ∃ answer, next data = pure answer)
      (failed : (emission.mapError Operation.Fault.schema >>= next).result =
        .error (.schema error)) : error.fault.isDuplicate = false := by
    rcases Emission.result_bind_eq_error_iff.mp failed with failed | ⟨data, _, failed⟩
    · rw [Emission.result_mapError, mapError_eq_error_iff] at failed
      obtain ⟨_, found, ⟨⟩⟩ := failed
      obtain ⟨_, _, _, rfl, plain⟩ := placed error found
      exact plain
    · obtain ⟨answer, answered⟩ := silent data
      simp [answered] at failed
  cases part with
  | leaf path source identity field target =>
    exact lifted (Field.leafRule_placed path source identity field target)
      (fun rule => ⟨.rule rule, rfl⟩) failed
  | fragment path source identity field =>
    exact lifted (Field.fragment_placed path source identity field)
      (fun content => ⟨.fragment content.1 content.2, rfl⟩) failed
  | record path fields level =>
    rcases Emission.result_bind_eq_error_iff.mp failed with failed | ⟨rule, _, failed⟩
    · rcases fault_of_recordWith failed with ⟨_, ⟨⟩, _, _, _, rfl, plain⟩ | unordered
      · exact plain
      · obtain ⟨problems, _, ⟨⟩⟩ := mapError_eq_error_iff.mp unordered
    · simp at failed
  | union spec =>
    exact lifted (TaggedUnion.rule_placed spec) (fun rule => ⟨.rule rule, rfl⟩) failed

/-- Every duplicate that is reported is an entry whose name is taken in the draft that is left. -/
theorem exists_of_perform_duplicate {draft : Draft} {operation : Operation} {error : SchemaError}
    (failed : (draft.perform operation).2 = .error (.schema error))
    (duplicate : error.fault.isDuplicate = true) :
    ∃ entry, entry.name ∈ (draft.perform operation).1.names ∧
      error = (draft.perform operation).1.duplicate entry := by
  cases operation with
  | add entry =>
    rw [perform] at failed ⊢
    rcases added : draft.add entry with fault | next
    · simp only [added] at failed ⊢
      cases failed
      exact ⟨entry, add_eq_error_iff.mp added⟩
    · simp [added] at failed
  | fillStart root =>
    rw [perform, fillStart] at failed
    split at failed <;> rename_i filled
    · simp at failed
    · split at filled
      · simp at filled
      · cases filled
        cases failed
        simp [SchemaError.atRule, SchemaFault.isDuplicate] at duplicate
  | finish =>
    rw [perform, finish] at failed
    split at failed <;> rename_i finished
    · simp at failed
    · split at finished
      · simp at finished
      · cases finished
        cases failed
        simp [SchemaError.atRule, SchemaFault.isDuplicate] at duplicate
  | compile part =>
    obtain ⟨front, _, _, reached | ⟨entry, taken, reached⟩⟩ :=
      absorb_cases .schema part.emission draft
    · rw [perform, reached] at failed
      simp [Part.isDuplicate_of_emission failed] at duplicate
    · rw [perform, reached] at failed ⊢
      cases failed
      exact ⟨entry, taken, rfl⟩

theorem perform_eq_of_error {draft : Draft} {operation : Operation} {fault : Operation.Fault}
    (single : ∀ part, operation ≠ .compile part)
    (failed : (draft.perform operation).2 = .error fault) :
    (draft.perform operation).1 = draft := by
  cases operation with
  | add entry =>
    rw [perform] at failed ⊢
    rcases added : draft.add entry with error | next <;> simp_all
  | fillStart root =>
    rw [perform] at failed ⊢
    rcases filled : draft.fillStart root with error | next <;> simp_all
  | finish =>
    rw [perform]
    rcases finished : draft.finish with error | rules <;> rfl
  | compile part => exact absurd rfl (single part)

/-! ### Whole runs -/

theorem run_filled {draft : Draft} {roots : List String} (filled : draft.Filled roots)
    (operations : List Operation) :
    (draft.run operations).Filled (roots ++ draft.filledRoots operations) := by
  induction operations generalizing draft roots with
  | nil =>
    rw [filledRoots, List.append_nil]
    exact filled
  | cons operation rest inductionHypothesis =>
    rw [filledRoots, ← List.append_assoc]
    exact inductionHypothesis (perform_filled filled operation)

theorem Grows.trans {first second third : Draft} (lower : first.Grows second)
    (upper : second.Grows third) : first.Grows third where
  grammar := upper.grammar.trans lower.grammar
  entries := lower.entries.trans upper.entries
  nodup distinct := upper.nodup (lower.nodup distinct)

theorem run_grows (draft : Draft) (operations : List Operation) :
    draft.Grows (draft.run operations) := by
  induction operations generalizing draft with
  | nil => exact ⟨rfl, List.prefix_rfl, id⟩
  | cons operation rest inductionHypothesis =>
    exact (draft.perform_grows operation).trans (inductionHypothesis _)

theorem Grows.names {before after : Draft} (grows : before.Grows after) :
    before.names <+: after.names :=
  (List.prefix_cons_inj startRule).mpr (grows.entries.map Entry.name)

theorem finish_of_filled {draft : Draft} {roots : List String} (filled : draft.Filled roots) :
    (∃ rules, draft.finish = .ok rules) ↔ roots ≠ [] := by
  cases filled with
  | unfilled unset => simp [finish_eq_ok_iff, unset]
  | @filled _ root rule last found started =>
    have several : roots ≠ [] := by
      rintro rfl
      simp [lastRoot?] at last
    simp [finish_eq_ok_iff, started, several]

theorem exists_of_finish {draft : Draft} {roots : List String} {rules : List (String × Rule)}
    (filled : draft.Filled roots) (finished : draft.finish = .ok rules) :
    ∃ root rule, lastRoot? roots = some root ∧ draft.get? root = some rule ∧
      rules = (startRule, rule) :: draft.entries.map fun entry => (entry.name, entry.rule) := by
  obtain ⟨rule, started, rfl⟩ := finish_eq_ok_iff.mp finished
  cases filled with
  | unfilled unset => simp [unset] at started
  | @filled _ root found last registered start =>
    rw [started] at start
    cases start
    exact ⟨root, rule, last, registered, rfl⟩

theorem perform_finish_eq_ok_iff {draft : Draft} {rules : List (String × Rule)} :
    (draft.perform .finish).2 = .ok (.rules rules) ↔ draft.finish = .ok rules := by
  rw [perform]
  rcases draft.finish with error | rules <;> simp

/-- A draft that only grows, and whose start rule follows the roots filled in so far. -/
structure AppendOnly (grammar : String) (roots : List String) (draft : Draft) : Prop where
  first : draft.names.head? = some startRule
  distinct : draft.names.Nodup
  entries : ∀ later, draft.entries <+: (draft.run later).entries
  names : ∀ later, draft.names <+: (draft.run later).names
  rule : ∀ later name rule, name ≠ startRule → draft.get? name = some rule →
    (draft.run later).get? name = some rule
  start : ∀ operation, (draft.perform operation).1.get? startRule ≠ draft.get? startRule →
    ∃ root, operation = .fillStart root ∧ (draft.perform operation).2 = .ok .done
  /-- Only a part that is being compiled may fail after it has added entries. -/
  unchanged : ∀ operation fault, (∀ part, operation ≠ .compile part) →
    (draft.perform operation).2 = .error fault → (draft.perform operation).1 = draft
  added : ∀ entry, entry.name ∉ draft.names →
    draft.perform (.add entry) = (draft.append [entry], .ok .done)
  taken : ∀ entry, entry.name ∈ draft.names →
    draft.perform (.add entry) = (draft, .error (.schema (draft.duplicate entry)))
  duplicate : ∀ operation error, (draft.perform operation).2 = .error (.schema error) →
    error.fault.isDuplicate = true →
    ∃ name owner, (draft.perform operation).1.OwnedBy name owner ∧ error.fault.message =
      s!"Duplicate rule '{name}' in grammar '{grammar}': already defined by {owner}"
  finished : (∃ rules, (draft.perform .finish).2 = .ok (.rules rules)) ↔ roots ≠ []
  /-- The rules in the end, the start rule's being the one that its last root has now. -/
  rules : ∀ rules, (draft.perform .finish).2 = .ok (.rules rules) →
    rules.map Prod.fst = draft.names ∧
      ∃ root rule, lastRoot? roots = some root ∧ draft.get? root = some rule ∧
        rules = (startRule, rule) :: draft.entries.map fun entry => (entry.name, entry.rule)

/-- Over any run of operations on a new draft, the draft only grows. -/
theorem run_append_only (grammar : String) (operations : List Operation) :
    AppendOnly grammar ((new grammar).filledRoots operations) ((new grammar).run operations) := by
  have named : ((new grammar).run operations).grammar = grammar :=
    ((new grammar).run_grows operations).grammar
  have distinct : ((new grammar).run operations).names.Nodup :=
    ((new grammar).run_grows operations).nodup (by simp)
  have filled := run_filled (.unfilled rfl : (new grammar).Filled []) operations
  rw [List.nil_append] at filled
  generalize (new grammar).run operations = draft at named distinct filled ⊢
  constructor
  case first => rfl
  case distinct => exact distinct
  case entries =>
    intro later
    exact (draft.run_grows later).entries
  case names =>
    intro later
    exact (draft.run_grows later).names
  case rule =>
    intro later name rule ordinary found
    exact get?_of_prefix (draft.run_grows later).entries ordinary found
  case start =>
    intro operation changed
    rcases draft.perform_cases operation with
      ⟨front, _, reached, _⟩ | ⟨root, _, same, _, reached⟩
    · exact absurd (by rw [reached]; rfl) changed
    · exact ⟨root, same, by rw [reached]⟩
  case unchanged =>
    intro operation fault single failed
    exact perform_eq_of_error single failed
  case added =>
    intro entry unknown
    simp [perform, add_eq_ok_iff.mpr ⟨unknown, rfl⟩]
  case taken =>
    intro entry taken
    simp [perform, add_eq_error_iff.mpr ⟨taken, rfl⟩]
  case duplicate =>
    intro operation error failed duplicate
    obtain ⟨entry, taken, rfl⟩ := exists_of_perform_duplicate failed duplicate
    have grows := draft.perform_grows operation
    obtain ⟨owner, owned, message⟩ := exists_owner_of_mem (grows.nodup distinct) taken
    rw [grows.grammar, named] at message
    exact ⟨entry.name, owner, owned, message⟩
  case finished =>
    simp only [perform_finish_eq_ok_iff]
    exact finish_of_filled filled
  case rules =>
    intro rules finished
    obtain ⟨root, rule, last, found, rfl⟩ :=
      exists_of_finish filled (perform_finish_eq_ok_iff.mp finished)
    refine ⟨?_, root, rule, last, found, rfl⟩
    simp [Draft.names, Function.comp_def]

end Draft

end SchemaGrammar
