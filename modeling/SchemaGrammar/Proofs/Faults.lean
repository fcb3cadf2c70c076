import SchemaGrammar.Proofs.Fragment
import SchemaGrammar.Schema.Rules
set_option autoImplicit false

/-!
What compiling can find wrong by itself. An emission fails where one of its parts fails, and every
fault of the compiler is found in the declaration of a field and lies at the rule of that field; a
name that is taken is never among them, for the compiler does not look at the draft that takes its
rules.
-/

namespace SchemaGrammar

theorem bind_eq_error_iff {Error Data Next : Type} {first : Except Error Data}
    {next : Data → Except Error Next} {error : Error} :
    (first >>= next) = .error error ↔
      first = .error error ∨ ∃ middle, first = .ok middle ∧ next middle = .error error := by
  cases first <;> simp [bind, Except.bind]

theorem mapError_eq_error_iff {Error Other Data : Type} {convert : Error → Other}
    {result : Except Error Data} {fault : Other} :
    result.mapError convert = .error fault ↔
      ∃ error, result = .error error ∧ convert error = fault := by
  constructor
  · intro failed
    cases result with
    | error error =>
      cases failed
      exact ⟨error, rfl, rfl⟩
    | ok data => cases failed
  · intro failed
    obtain ⟨error, rfl, rfl⟩ := failed
    rfl

/-- Whether a fault is a name that is taken. -/
def SchemaFault.isDuplicate : SchemaFault → Bool
  | .duplicateRule _ _ _ => true
  | _ => false

namespace Emission

variable {Error Other Data Next : Type}

theorem result_bind_eq_error_iff {first : Emission Error Data}
    {next : Data → Emission Error Next} {error : Error} :
    (first >>= next).result = .error error ↔
      first.result = .error error ∨
        ∃ data, first.result = .ok data ∧ (next data).result = .error error := by
  rcases outcome : first.result with failure | data
  · simp [bind_of_error outcome]
  · simp [bind_of_ok outcome]

theorem result_mapError (convert : Error → Other) (emission : Emission Error Data) :
    (emission.mapError convert).result = emission.result.mapError convert := rfl

/-- Every fault of the emission lies at a rule, and none is a name that is taken. -/
def Placed (emission : Emission SchemaError Data) : Prop :=
  ∀ error, emission.result = .error error →
    ∃ rule field fault, error = .atRule rule field fault ∧ fault.isDuplicate = false

theorem placed_pure (data : Data) : Placed (pure data) := by
  intro error failed
  simp at failed

theorem placed_emit (entry : Entry) : Placed (emit entry) := by
  intro error failed
  simp [emit] at failed

theorem Placed.bind {first : Emission SchemaError Data} {next : Data → Emission SchemaError Next}
    (opening : first.Placed) (closing : ∀ data, (next data).Placed) : (first >>= next).Placed := by
  intro error failed
  rcases result_bind_eq_error_iff.mp failed with early | ⟨data, _, late⟩
  · exact opening error early
  · exact closing data error late

theorem placed_located {rule : String} {field : Option String} {result : Except SchemaFault Data}
    (plain : ∀ fault, result = .error fault → fault.isDuplicate = false) :
    (located rule field result).Placed := by
  intro error failed
  obtain ⟨fault, found, rfl⟩ := mapError_eq_error_iff.mp failed
  exact ⟨rule, field, fault, rfl, plain fault found⟩

end Emission

namespace TypeRef

theorem isDuplicate_of_withoutIndirection {type : TypeRef} {fault : SchemaFault}
    (failed : type.withoutIndirection = .error fault) : fault.isDuplicate = false := by
  fun_induction withoutIndirection type with
  | case1 path argument indirect inductionHypothesis => exact inductionHypothesis failed
  | case2 path args indirect several =>
    cases failed
    rfl
  | case3 path args direct single => simp at failed

theorem isDuplicate_of_element {wrapper : String} {type : TypeRef} {fault : SchemaFault}
    (failed : (do
      let argument ← type.singleArgument wrapper
      argument.withoutIndirection) = .error fault) : fault.isDuplicate = false := by
  rcases bind_eq_error_iff.mp failed with several | ⟨argument, _, failed⟩
  · unfold singleArgument at several
    split at several
    · simp at several
    · cases several
      rfl
  · exact isDuplicate_of_withoutIndirection failed

theorem isDuplicate_of_shape {type : TypeRef} {fault : SchemaFault}
    (failed : type.shape = .error fault) : fault.isDuplicate = false := by
  rcases bind_eq_error_iff.mp failed with failed | ⟨outer, _, failed⟩
  · exact isDuplicate_of_withoutIndirection failed
  · dsimp only at failed
    split at failed
    · rcases bind_eq_error_iff.mp failed with failed | ⟨inner, _, failed⟩
      · exact isDuplicate_of_element failed
      · split at failed
        · cases failed
          rfl
        · simp at failed
    · rcases bind_eq_error_iff.mp failed with failed | ⟨inner, _, failed⟩
      · exact isDuplicate_of_element failed
      · simp at failed
    · simp at failed

theorem isDuplicate_of_definitionName {type : TypeRef} {fault : SchemaFault}
    (failed : type.definitionName = .error fault) : fault.isDuplicate = false := by
  rcases bind_eq_error_iff.mp failed with failed | ⟨target, _, failed⟩
  · exact isDuplicate_of_withoutIndirection failed
  · split at failed
    · simp at failed
    · cases failed
      rfl

theorem isDuplicate_of_listRule {element : TypeRef} {identity : String} {delimiter : Option Rule}
    {nonEmpty : Bool} {fault : SchemaFault}
    (failed : element.listRule identity delimiter nonEmpty = .error fault) :
    fault.isDuplicate = false := by
  rcases bind_eq_error_iff.mp failed with failed | ⟨name, _, failed⟩
  · exact isDuplicate_of_definitionName failed
  · simp [pure, Except.pure] at failed

end TypeRef

namespace Field

theorem isDuplicate_of_shape {field : Field} {fault : SchemaFault}
    (failed : field.shape = .error fault) : fault.isDuplicate = false := by
  rcases bind_eq_error_iff.mp failed with failed | ⟨shape, _, failed⟩
  · exact TypeRef.isDuplicate_of_shape failed
  · split at failed <;> split at failed
    all_goals first
      | cases failed
        rfl
      | simp at failed

theorem leafRule_placed (path source : String) (identity : Option String) (field : Field)
    (target : TypeRef) : (field.leafRule path source identity target).Placed := by
  unfold leafRule
  split
  · exact (Emission.placed_emit _).bind fun _ => Emission.placed_pure _
  · exact (Emission.placed_located fun _ => TypeRef.isDuplicate_of_definitionName).bind
      fun _ => Emission.placed_pure _

theorem fragment_placed (path source identity : String) (field : Field) :
    (field.fragment path source identity).Placed := by
  induction field using delimiterInduction generalizing path identity with
  | step field inductionHypothesis =>
    have delimiter : (field.delimiterFragment path source identity).Placed := by
      unfold delimiterFragment
      split <;> rename_i given
      · exact Emission.placed_pure none
      · exact (inductionHypothesis _ given _ _).bind fun _ => Emission.placed_pure _
    rw [fragment_eq]
    apply (Emission.placed_located fun _ => isDuplicate_of_shape).bind
    intro shape
    split
    · apply delimiter.bind
      intro between
      exact (Emission.placed_located fun _ => TypeRef.isDuplicate_of_listRule).bind
        fun _ => Emission.placed_pure _
    · exact (leafRule_placed path source identity field shape.target).bind
        fun _ => Emission.placed_pure _
    · exact (leafRule_placed path source identity field shape.target).bind
        fun _ => Emission.placed_pure _

theorem membersFrom_placed (path : String) (position : Nat) (fields : List Field) :
    (membersFrom path position fields).Placed := by
  induction fields generalizing position with
  | nil => exact Emission.placed_pure []
  | cons field rest inductionHypothesis =>
    have first : (field.member path position).Placed :=
      (fragment_placed _ _ _ _).bind fun _ => Emission.placed_pure _
    exact first.bind fun _ =>
      (inductionHypothesis (position + 1)).bind fun _ => Emission.placed_pure _

end Field

/-- A record fails for one of its fields or, once these are in order, for its level. -/
theorem fault_of_recordWith {Error : Type} {lift : SchemaError → Error} {path : String}
    {fields : List Field} {level : Except Error (Option Level)} {fault : Error}
    (failed : (recordWith lift path fields level).result = .error fault) :
    (∃ error, lift error = fault ∧
        ∃ rule field plain, error = .atRule rule field plain ∧ plain.isDuplicate = false) ∨
      level = .error fault := by
  rcases Emission.result_bind_eq_error_iff.mp failed with failed | ⟨members, _, failed⟩
  · rw [Emission.result_mapError, mapError_eq_error_iff] at failed
    obtain ⟨error, found, lifted⟩ := failed
    exact .inl ⟨error, lifted, Field.membersFrom_placed path 0 fields error found⟩
  · rcases Emission.result_bind_eq_error_iff.mp failed with failed | ⟨precedence, _, failed⟩
    · exact .inr failed
    · simp [Emission.emit, Emission.result_bind_eq_error_iff] at failed

theorem recordRule_placed (path : String) (fields : List Field) (level : Option Level) :
    (recordRule path fields level).Placed := by
  intro error failed
  rcases fault_of_recordWith failed with ⟨_, rfl, placed⟩ | ordered
  · exact placed
  · simp at ordered

namespace TaggedUnion

theorem variantRules_placed (union : TaggedUnion) (variants : List Variant) :
    (union.variantRules variants).Placed := by
  induction variants with
  | nil => exact Emission.placed_pure ()
  | cons variant rest inductionHypothesis =>
    exact (recordRule_placed _ _ _).bind fun _ => inductionHypothesis

theorem rule_placed (union : TaggedUnion) : union.rule.Placed :=
  (variantRules_placed union union.variants).bind fun _ =>
    (Emission.placed_emit _).bind fun _ => Emission.placed_pure _

end TaggedUnion

namespace Definition

theorem rule_placed (definition : Definition) : definition.rule.Placed := by
  cases definition with
  | record spec => exact recordRule_placed spec.name spec.fields spec.precedence
  | union spec => exact spec.rule_placed

theorem rules_placed (definitions : List Definition) : (rules definitions).Placed := by
  induction definitions with
  | nil => exact Emission.placed_pure ()
  | cons definition rest inductionHypothesis =>
    exact definition.rule_placed.bind fun _ => inductionHypothesis

end Definition

end SchemaGrammar
