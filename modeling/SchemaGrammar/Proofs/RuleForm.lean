import SchemaGrammar.Proofs.Json.RoundTrip
import SchemaGrammar.Proofs.Reading
import SchemaGrammar.Rule.Json
set_option autoImplicit false

/-!
The JSON form of a rule is read back as the rule. `FitsIn` says that the levels of the rules in each
other have room in a scope, which is all that reading asks of a form that was written.
-/

namespace SchemaGrammar

namespace Table

variable {Data : Type}

theorem set_of_notMem {key : String} {data : Data} {table : List (String × Data)}
    (unknown : key ∉ table.map Prod.fst) : set key data table = table ++ [(key, data)] := by
  induction table with
  | nil => rfl
  | cons entry table inductionHypothesis =>
    rw [List.map_cons, List.mem_cons, not_or] at unknown
    rw [set, if_neg (Ne.symm unknown.1), inductionHypothesis unknown.2, List.cons_append]

theorem foldl_set_of_nodup {table entries : List (String × Data)}
    (distinct : ((table ++ entries).map Prod.fst).Nodup) :
    entries.foldl (fun table (key, data) => set key data table) table = table ++ entries := by
  induction entries generalizing table with
  | nil => simp
  | cons entry entries inductionHypothesis =>
    obtain ⟨key, data⟩ := entry
    have unknown : key ∉ table.map Prod.fst := by
      intro known
      rw [List.map_append, List.nodup_append] at distinct
      exact distinct.2.2 key known key (by simp) rfl
    rw [List.foldl_cons]
    dsimp only
    rw [set_of_notMem unknown, inductionHypothesis (by simpa using distinct), List.append_assoc]
    rfl

/-- Entries under distinct keys all count. -/
theorem distinct_of_nodup {entries : List (String × Data)}
    (unique : (entries.map Prod.fst).Nodup) : distinct entries = entries :=
  foldl_set_of_nodup (by simpa using unique)

theorem mem_keys_set_iff {key other : String} {data : Data} {table : List (String × Data)} :
    other ∈ (set key data table).map Prod.fst ↔ other = key ∨ other ∈ table.map Prod.fst := by
  induction table with
  | nil => simp [set]
  | cons entry table inductionHypothesis =>
    rw [set]
    split
    · rename_i same
      simp [← same]
    · rw [List.map_cons, List.mem_cons, inductionHypothesis, List.map_cons, List.mem_cons]
      exact or_left_comm

theorem nodup_keys_set {key : String} {data : Data} {table : List (String × Data)}
    (unique : (table.map Prod.fst).Nodup) : ((set key data table).map Prod.fst).Nodup := by
  induction table with
  | nil => simp [set]
  | cons entry table inductionHypothesis =>
    rw [List.map_cons, List.nodup_cons] at unique
    rw [set]
    split
    · rename_i same
      simpa [← same] using unique
    · rename_i different
      rw [List.map_cons, List.nodup_cons, mem_keys_set_iff, not_or]
      exact ⟨⟨different, unique.1⟩, inductionHypothesis unique.2⟩

theorem set_map {Result : Type} (f : Data → Result) (key : String) (data : Data)
    (table : List (String × Data)) :
    set key (f data) (table.map fun (key, data) => (key, f data)) =
      (set key data table).map fun (key, data) => (key, f data) := by
  induction table with
  | nil => rfl
  | cons entry table inductionHypothesis =>
    rw [set, List.map_cons, set, inductionHypothesis]
    split <;> rfl

/-- What holds of no entries, and is kept by each entry that is set, holds in the end. -/
theorem distinct_induction {motive : List (String × Data) → List (String × Data) → Prop}
    (nil : motive [] [])
    (concat : ∀ entries key data, motive entries (distinct entries) →
      motive (entries ++ [(key, data)]) (set key data (distinct entries)))
    (entries : List (String × Data)) : motive entries (distinct entries) := by
  rw [← List.reverse_reverse entries]
  induction entries.reverse with
  | nil => exact nil
  | cons entry earlier inductionHypothesis =>
    have next := concat earlier.reverse entry.1 entry.2 inductionHypothesis
    rw [List.reverse_cons, distinct, List.foldl_append]
    exact next

theorem nodup_keys_distinct (entries : List (String × Data)) :
    ((distinct entries).map Prod.fst).Nodup := by
  induction entries using distinct_induction with
  | nil => simp
  | concat entries key data inductionHypothesis => exact nodup_keys_set inductionHypothesis

theorem distinct_map {Result : Type} (f : Data → Result) (entries : List (String × Data)) :
    distinct (entries.map fun (key, data) => (key, f data)) =
      (distinct entries).map fun (key, data) => (key, f data) := by
  induction entries using distinct_induction with
  | nil => rfl
  | concat entries key data inductionHypothesis =>
    rw [List.map_append, distinct, List.foldl_append]
    change set key (f data) (distinct _) = _
    rw [inductionHypothesis, set_map]

end Table

namespace Value

theorem distinct_list (items : List Value) :
    (list items).distinct = list (items.map distinct) := by
  simp only [distinct, fold, foldItems_eq_map, List.map_map, Function.comp_def]

theorem distinct_table {entries : List (String × Value)}
    (unique : (entries.map Prod.fst).Nodup) :
    (table entries).distinct = table (entries.map fun (key, value) => (key, value.distinct)) := by
  simp only [distinct, fold, foldEntries_eq_map, List.map_map, Function.comp_def]
  rw [Table.distinct_of_nodup]
  simpa [Function.comp_def] using unique

end Value

namespace Rule

/-- The rules that a rule is directly made of. -/
def parts : Rule → List Rule
  | seq members | choice members => members
  | .repeat content | repeat1 content | field _ content | precLeft _ content => [content]
  | symbol _ | pattern _ | string _ | blank => []

theorem sizeOf_lt_of_mem_parts {rule part : Rule} (member : part ∈ rule.parts) :
    sizeOf part < sizeOf rule := by
  cases rule <;> simp only [parts, List.mem_singleton, List.not_mem_nil] at member
  case seq members | choice members =>
    have smaller := List.sizeOf_lt_of_mem member
    simp only [seq.sizeOf_spec, choice.sizeOf_spec]
    omega
  all_goals
    subst member
    simp only [repeat.sizeOf_spec, repeat1.sizeOf_spec, field.sizeOf_spec, precLeft.sizeOf_spec]
    omega

/-- A property that every rule takes over from its parts. -/
@[elab_as_elim]
theorem partInduction {motive : Rule → Prop}
    (step : ∀ rule : Rule, (∀ part ∈ rule.parts, motive part) → motive rule) (rule : Rule) :
    motive rule :=
  step rule fun part _ => partInduction step part
termination_by sizeOf rule
decreasing_by exact sizeOf_lt_of_mem_parts ‹_›

theorem toValues_eq_map (rules : List Rule) : toValues rules = rules.map toValue := by
  induction rules with
  | nil => rfl
  | cons rule rules inductionHypothesis => rw [toValues, inductionHypothesis, List.map_cons]

/-- The entries in the form of a rule after the one that says its kind. -/
def arguments : Rule → Table
  | symbol name => [("name", .string name)]
  | seq members | choice members => [("members", .list (members.map toValue))]
  | .repeat content | repeat1 content => [("content", content.toValue)]
  | field name content => [("name", .string name), ("content", content.toValue)]
  | precLeft level content => [("value", .integer level.toNat), ("content", content.toValue)]
  | pattern value | string value => [("value", .string value)]
  | blank => []

theorem toValue_eq_table (rule : Rule) :
    rule.toValue = .table (("type", .string rule.tag) :: rule.arguments) := by
  cases rule <;> simp [toValue, symbolValue, toValues_eq_map, tag, arguments]

theorem nodup_keys (rule : Rule) :
    ((("type", .string rule.tag) :: rule.arguments).map Prod.fst).Nodup := by
  cases rule <;> simp [arguments]

/-- What the form of a rule holds besides its kind. -/
inductive Argument (rule : Rule) : Value → Prop where
  | text (value : String) : Argument rule (.string value)
  | level (level : Level) : Argument rule (.integer level.toNat)
  | content {part : Rule} : part ∈ rule.parts → Argument rule part.toValue
  | members : Argument rule (.list (rule.parts.map toValue))

theorem argument_of_mem {rule : Rule} {key : String} {value : Value}
    (member : (key, value) ∈ rule.arguments) : Argument rule value := by
  cases rule with
  | symbol name | pattern name | string name =>
    cases List.mem_singleton.mp member
    exact .text name
  | seq members | choice members =>
    cases List.mem_singleton.mp member
    exact .members
  | «repeat» content | repeat1 content =>
    cases List.mem_singleton.mp member
    exact .content (List.mem_singleton_self content)
  | field name content =>
    cases member with
    | head => exact .text name
    | tail _ member =>
      cases List.mem_singleton.mp member
      exact .content (List.mem_singleton_self content)
  | precLeft level content =>
    cases member with
    | head => exact .level level
    | tail _ member =>
      cases List.mem_singleton.mp member
      exact .content (List.mem_singleton_self content)
  | blank => cases member

/-- No key stands twice in the form of a rule. -/
theorem distinct_toValue (rule : Rule) : rule.toValue.distinct = rule.toValue := by
  induction rule using partInduction with
  | step rule inductionHypothesis =>
    have same : ∀ entry ∈ ("type", .string rule.tag) :: rule.arguments,
        (entry.1, entry.2.distinct) = entry := by
      rintro ⟨key, value⟩ (_ | ⟨_, member⟩)
      · rfl
      · refine congrArg (Prod.mk key) ?_
        cases argument_of_mem member with
        | text value => rfl
        | level level => rfl
        | content part => exact inductionHypothesis _ part
        | members =>
          dsimp only
          rw [Value.distinct_list, List.map_map]
          exact congrArg Value.list (List.map_congr_left inductionHypothesis)
    rw [toValue_eq_table, Value.distinct_table rule.nodup_keys, List.map_congr_left same,
      List.map_id']

/-- What a rule of a kind leaves to its parts. -/
def Scope.inner (scope : Scope) (kind : String) : Scope :=
  ⟨scope.room - scope.levels kind, min (compoundTags.idxOf kind) scope.earliest⟩

/-- There is room for the levels of the rule and of all rules in it. -/
inductive FitsIn : Scope → Rule → Prop where
  | step {scope : Scope} {rule : Rule} :
      scope.levels rule.tag ≤ scope.room →
      (∀ part ∈ rule.parts, FitsIn (scope.inner rule.tag) part) → FitsIn scope rule

theorem readEntries_of_body {scope : Scope} {entries : Entries} {kind : String}
    {body : Scope → Checked Rule} {rule : Rule}
    (typed : entries.table.lookup "type" = some (.string kind))
    (known : body? entries kind = some body) (room : scope.levels kind ≤ scope.room)
    (read : body (scope.inner kind) = .valid rule) : readEntries scope entries = .valid rule := by
  have entered : scope.enter kind body = .valid rule := by
    rw [Scope.enter, Checked.within, if_neg (Nat.not_lt.mpr room)]
    exact read
  simp only [readEntries, typed, known, entered]
  rfl

theorem levelReader_toNat (level : Level) : levelReader (.integer level.toNat) = .valid level :=
  levelOfInt_eq_valid_iff.mpr rfl

/-- A rule that fits comes back. -/
theorem reading_toValue {scope : Scope} {rule : Rule} (fits : FitsIn scope rule) :
    (reading rule.toValue scope).alone = .valid rule := by
  induction fits with
  | @step scope rule room _ inductionHypothesis =>
    have many : (reading (.list (rule.parts.map toValue)) (scope.inner rule.tag)).many =
        .valid rule.parts :=
      Reader.recursive_many_of_valid inductionHypothesis
    have alone : ∀ content, rule.parts = [content] →
        (reading content.toValue (scope.inner rule.tag)).alone = .valid content := by
      intro content only
      exact inductionHypothesis content (by simp [only])
    rw [toValue_eq_table, reading, Reader.recursive_table_alone]
    cases rule with
    | symbol name => exact readEntries_of_body rfl rfl room rfl
    | seq members =>
      refine readEntries_of_body rfl rfl room (Checked.map_of_valid seq ?_)
      exact Reader.requiredPart_of_lookup rfl many
    | choice members =>
      refine readEntries_of_body rfl rfl room (Checked.map_of_valid choice ?_)
      exact Reader.requiredPart_of_lookup rfl many
    | «repeat» content =>
      refine readEntries_of_body rfl rfl room (Checked.map_of_valid Rule.repeat ?_)
      exact Reader.requiredPart_of_lookup rfl (alone content rfl)
    | repeat1 content =>
      refine readEntries_of_body rfl rfl room (Checked.map_of_valid repeat1 ?_)
      exact Reader.requiredPart_of_lookup rfl (alone content rfl)
    | field name content =>
      refine readEntries_of_body rfl rfl room (Checked.apply_of_valid rfl ?_)
      exact Reader.requiredPart_of_lookup rfl (alone content rfl)
    | precLeft level content =>
      refine readEntries_of_body rfl rfl room
        (Checked.apply_of_valid (Checked.map_of_valid precLeft ?_) ?_)
      · exact congrArg (Checked.inside (.key "value")) (levelReader_toNat level)
      · exact Reader.requiredPart_of_lookup rfl (alone content rfl)
    | pattern value => exact readEntries_of_body rfl rfl room rfl
    | string value => exact readEntries_of_body rfl rfl room rfl
    | blank => exact readEntries_of_body rfl rfl room rfl

end Rule

end SchemaGrammar
