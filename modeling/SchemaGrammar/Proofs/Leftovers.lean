import SchemaGrammar.Proofs.Faults
import SchemaGrammar.Proofs.Record
set_option autoImplicit false

/-!
What a failed compilation leaves in a draft. A draft absorbs the parts of an emission one after the
other and stops at the first that fails (`absorb_bind`), so a record leaves the terminals of the
fields in front of the one that fails. That field leaves nothing itself, unless it strands the
terminal of a delimiter: the delimiter comes before the element type of the list around it, and the
terminal remains when that type is rejected (`Strands`). The rule of the record is added last, and
so is the rule of a union; neither is ever left.
-/

namespace SchemaGrammar

theorem not_mem_names_of_longer {entries : List Entry} {name : String}
    (longer : ∀ entry ∈ entries, name.length < entry.name.length) :
    name ∉ entries.map Entry.name := by
  intro listed
  obtain ⟨entry, member, rfl⟩ := List.mem_map.mp listed
  exact Nat.lt_irrefl _ (longer entry member)

namespace Draft

variable {Error Data Next : Type} {lift : SchemaError → Error} {draft after : Draft}

theorem addAll_append (front back : List Entry) (draft : Draft) :
    draft.addAll (front ++ back) =
      match draft.addAll front with
      | (middle, .ok ()) => middle.addAll back
      | (middle, .error error) => (middle, .error error) := by
  induction front generalizing draft with
  | nil => rfl
  | cons entry front inductionHypothesis =>
    rw [List.cons_append, addAll, addAll]
    rcases draft.add entry with error | next
    · rfl
    · exact inductionHypothesis next

/-- The first part is absorbed, and then the second one unless that has failed. -/
theorem absorb_bind (lift : SchemaError → Error) (first : Emission Error Data)
    (next : Data → Emission Error Next) (draft : Draft) :
    draft.absorb lift (first >>= next) =
      match draft.absorb lift first with
      | (middle, .ok data) => middle.absorb lift (next data)
      | (middle, .error error) => (middle, .error error) := by
  rcases outcome : first.result with error | data
  · rw [Emission.bind_of_error outcome, absorb, absorb]
    rcases draft.addAll first.entries with ⟨middle, _ | _⟩ <;> simp [outcome]
  · rw [Emission.bind_of_ok outcome, absorb, absorb, addAll_append]
    rcases draft.addAll first.entries with ⟨middle, _ | _⟩ <;> simp [outcome, absorb]

theorem absorb_bind_eq_error_iff {first : Emission Error Data} {next : Data → Emission Error Next}
    {error : Error} :
    draft.absorb lift (first >>= next) = (after, .error error) ↔
      draft.absorb lift first = (after, .error error) ∨
        ∃ middle data, draft.absorb lift first = (middle, .ok data) ∧
          middle.absorb lift (next data) = (after, .error error) := by
  rw [absorb_bind]
  rcases draft.absorb lift first with ⟨middle, fault | data⟩
  · simp
  · constructor
    · exact fun failed => .inr ⟨middle, data, rfl, failed⟩
    · rintro (⟨⟨⟩⟩ | ⟨_, _, ⟨⟩, failed⟩)
      exact failed

theorem absorb_mapError_eq_error_iff {emission : Emission SchemaError Data} {error : Error} :
    draft.absorb lift (emission.mapError lift) = (after, .error error) ↔
      ∃ fault, draft.absorb id emission = (after, .error fault) ∧ lift fault = error := by
  unfold absorb Emission.mapError
  rcases draft.addAll emission.entries with ⟨middle, fault | ⟨⟩⟩
  · simp [and_assoc]
  · simp [mapError_eq_error_iff, and_assoc]

theorem absorb_mapError_eq_ok_iff {emission : Emission SchemaError Data} {data : Data} :
    draft.absorb lift (emission.mapError lift) = (after, .ok data) ↔
      draft.absorb id emission = (after, .ok data) := by
  simp only [absorb_eq_ok_iff, Emission.yields_mapError]

theorem absorb_pure (lift : SchemaError → Error) (data : Data) (draft : Draft) :
    draft.absorb lift (pure data) = (draft, .ok data) := rfl

theorem absorb_ofResult (lift : SchemaError → Error) (result : Except Error Data)
    (draft : Draft) : draft.absorb lift (Emission.ofResult result) = (draft, result) := rfl

theorem absorb_emit_eq_error_iff {entry : Entry} {error : Error} :
    draft.absorb lift (Emission.emit entry) = (after, .error error) ↔
      entry.name ∈ draft.names ∧ draft = after ∧ lift (draft.duplicate entry) = error := by
  simp only [absorb, Emission.emit, addAll]
  rcases added : draft.add entry with fault | next
  · obtain ⟨taken, rfl⟩ := add_eq_error_iff.mp added
    simp [taken]
  · simp [(add_eq_ok_iff.mp added).1]

/-- Of one entry, or none, either all are added or nothing is. -/
theorem absorb_of_length_le_one (draft : Draft) (emission : Emission SchemaError Data)
    (single : emission.entries.length ≤ 1) :
    (draft.Fresh emission.entries ∧
        draft.absorb id emission = (draft.append emission.entries, emission.result)) ∨
      (¬ draft.Fresh emission.entries ∧
        ∃ fault, draft.absorb id emission = (draft, .error fault)) := by
  rcases draft.addAll_cases emission.entries with
    ⟨fresh, added⟩ | ⟨front, entry, rest, parts, _, taken, added⟩
  · exact .inl ⟨fresh, by rw [absorb, added]⟩
  · obtain rfl : front = [] := by
      rw [parts, List.length_append, List.length_cons] at single
      exact List.length_eq_zero_iff.mp (by omega)
    rw [append_nil] at taken added
    refine .inr ⟨fun fresh => fresh.new entry (by simp [parts]) taken, _, by rw [absorb, added]⟩

/-- An entry whose name is longer does not take a name. -/
theorem mem_names_of_append {entries : List Entry} {name : String}
    (taken : name ∈ (draft.append entries).names)
    (longer : ∀ entry ∈ entries, name.length < entry.name.length) : name ∈ draft.names := by
  rw [names_append, List.mem_append] at taken
  exact taken.resolve_right (not_mem_names_of_longer longer)

end Draft

theorem TypeRef.exists_fault_of_not_bare {type : TypeRef} {shape : TypeShape}
    (shaped : type.shape = .ok shape) (qualified : shape.target.isBare = false) :
    ∃ fault, shape.target.definitionName = .error fault := by
  rcases resolved : shape.target.definitionName with fault | name
  · exact ⟨fault, rfl⟩
  · have named := (definitionName_target shaped).mp resolved
    simp [isBare, named] at qualified

namespace Field

/-- A field that is rejected when its delimiter, or one nested in it, has been compiled: it is the
element type of the list around that delimiter which names no definition. -/
inductive Strands : Field → Prop where
  | element {field delimiter : Field} {shape : TypeShape} :
      field.Listed shape → field.delimited = some delimiter → delimiter.WellFormed →
      shape.target.isBare = false → Strands field
  | inside {field delimiter : Field} {shape : TypeShape} :
      field.Listed shape → field.delimited = some delimiter → Strands delimiter → Strands field

/-- What a field leaves in a draft on which it fails: the terminal that it strands, if there is one
and its name is new. -/
def Leaves (draft : Draft) (path source : String) (field : Field) (left : List Entry) : Prop :=
  (field.Strands ∧ draft.Fresh (field.terminalEntries path source) ∧
      left = field.terminalEntries path source) ∨
    ¬ (field.Strands ∧ draft.Fresh (field.terminalEntries path source)) ∧ left = []

/-- The terminals of fields, the first of which is at a position. -/
def terminalsFrom (path : String) (position : Nat) : List Field → List Entry
  | [] => []
  | field :: rest =>
    field.terminalEntries (field.qualifiedPath path position) path ++
      terminalsFrom path (position + 1) rest

theorem MembersCompile.entries_eq {path : String} {position : Nat} {fields : List Field}
    {entries : List Entry} {members : List Rule}
    (compile : MembersCompile path position fields entries members) :
    entries = terminalsFrom path position fields := by
  induction compile with
  | nil => rfl
  | cons compiles _ inductionHypothesis =>
    rw [compiles.entries_eq, inductionHypothesis, terminalsFrom]

theorem length_terminalEntries_le (path source : String) (field : Field) :
    (field.terminalEntries path source).length ≤ 1 := by
  unfold terminalEntries
  rcases field.nestedTerminal? <;> simp

theorem length_le_of_mem_terminalEntries {path source : String} {field : Field} {entry : Entry}
    (member : entry ∈ field.terminalEntries path source) : path.length ≤ entry.name.length := by
  have longer (depth : Nat) : path.length ≤ (delimiterPath path depth).length := by
    induction depth with
    | zero => exact Nat.le_refl _
    | succ depth inductionHypothesis =>
      rw [delimiterPath, String.length_append]
      omega
  unfold terminalEntries at member
  rcases nested : field.nestedTerminal? with _ | ⟨depth, terminal⟩
  · simp [nested] at member
  · obtain rfl : entry = _ := by simpa [nested] using member
    exact longer depth

theorem length_lt_qualifiedPath (path : String) (field : Field) (position : Nat) :
    path.length < (field.qualifiedPath path position).length := by
  rw [qualifiedPath, String.length_append, String.length_append]
  have : ("_").length = 1 := rfl
  omega

/-- The names of terminals are longer than the path of their record. -/
theorem length_lt_of_mem_terminalsFrom {path : String} {position : Nat} {fields : List Field}
    {entry : Entry} (member : entry ∈ terminalsFrom path position fields) :
    path.length < entry.name.length := by
  induction fields generalizing position with
  | nil => cases member
  | cons field fields inductionHypothesis =>
    rcases List.mem_append.mp member with own | later
    · exact Nat.lt_of_lt_of_le (length_lt_qualifiedPath path field position)
        (length_le_of_mem_terminalEntries own)
    · exact inductionHypothesis later

theorem Strands.exists_listed {field : Field} (strands : field.Strands) :
    ∃ shape delimiter, field.Listed shape ∧ field.delimited = some delimiter ∧
      (delimiter.WellFormed ∧ shape.target.isBare = false ∨ delimiter.Strands) := by
  cases strands with
  | element listed delimited formed qualified =>
    exact ⟨_, _, listed, delimited, .inl ⟨formed, qualified⟩⟩
  | inside listed delimited strands => exact ⟨_, _, listed, delimited, .inr strands⟩

theorem not_strands_of_undelimited {field : Field} (undelimited : field.delimited = none) :
    ¬ field.Strands := by
  intro strands
  obtain ⟨_, _, _, delimited, _⟩ := strands.exists_listed
  simp [undelimited] at delimited

theorem WellFormed.not_strands {field : Field} (formed : field.WellFormed) : ¬ field.Strands := by
  induction formed with
  | single single => exact not_strands_of_undelimited single.undelimited
  | list listed bare _ inductionHypothesis =>
    intro strands
    obtain ⟨_, delimiter, listed', delimited, ⟨_, qualified⟩ | strands⟩ := strands.exists_listed
    · cases listed.shaped.symm.trans listed'.shaped
      simp [qualified] at bare
    · exact inductionHypothesis delimiter delimited strands

/-- A list emits what its delimiter emits. -/
theorem Listed.terminalEntries_eq {field delimiter : Field} {shape : TypeShape}
    (listed : field.Listed shape) (delimited : field.delimited = some delimiter)
    (path source : String) :
    field.terminalEntries path source =
      delimiter.terminalEntries (path ++ "_delimiter") source := by
  simp [terminalEntries, nestedTerminal?_of_plain listed.plain, delimited, Option.map_map,
    Function.comp_def, delimiterPath_delimiter]

/-- A field is rejected at a path, and it emits just the terminal that it strands. -/
def Rejected (path source identity : String) (field : Field) : Prop :=
  ∃ entries fault, field.fragment path source identity = ⟨entries, .error fault⟩ ∧
    (field.Strands ∧ entries = field.terminalEntries path source ∨ ¬ field.Strands ∧ entries = [])

section Rejection

variable {field : Field} {shape : TypeShape} (path source identity : String)

theorem Single.fragment_of_rejected (single : field.Single shape) (plain : field.terminal? = none)
    (qualified : shape.target.isBare = false) :
    ∃ fault, field.fragment path source identity = ⟨[], .error fault⟩ := by
  obtain ⟨fault, unresolved⟩ := TypeRef.exists_fault_of_not_bare single.shaped qualified
  refine ⟨.atRule source identity fault, ?_⟩
  rw [single.fragment_eq, leafRule, plain, unresolved]
  rfl

/-- A list is rejected for its delimiter or behind it. -/
theorem Listed.fragment_of_rejected (listed : field.Listed shape)
    (rejected : shape.target.isBare = false ∨
      ∃ fault, (field.delimiterFragment path source identity).result = .error fault) :
    ∃ fault, field.fragment path source identity =
      ⟨(field.delimiterFragment path source identity).entries, .error fault⟩ := by
  rw [listed.fragment_eq]
  rcases outcome : (field.delimiterFragment path source identity).result with fault | delimiter
  · exact ⟨fault, Emission.bind_of_error outcome _⟩
  · have qualified : shape.target.isBare = false := by simpa [outcome] using rejected
    obtain ⟨fault, unresolved⟩ := TypeRef.exists_fault_of_not_bare listed.shaped qualified
    refine ⟨.atRule source identity fault, ?_⟩
    rw [Emission.bind_of_ok outcome, TypeRef.listRule, unresolved]
    -- Nothing is emitted behind the delimiter.
    exact congrArg (Emission.mk · _) (List.append_nil _)

/-- A list with a delimiter that is rejected is rejected for it. -/
theorem Listed.rejected_of_delimiter {delimiter : Field} (listed : field.Listed shape)
    (delimited : field.delimited = some delimiter) (formed : ¬ delimiter.WellFormed)
    (rejected : delimiter.Rejected (path ++ "_delimiter") source (identity ++ ".delimiter")) :
    field.Rejected path source identity := by
  obtain ⟨entries, fault, failed, left⟩ := rejected
  have between : field.delimiterFragment path source identity = ⟨entries, .error fault⟩ := by
    rw [delimiterFragment, delimited]
    dsimp only
    rw [failed]
    rfl
  obtain ⟨fault', failed'⟩ := listed.fragment_of_rejected path source identity
    (.inr ⟨fault, by rw [between]⟩)
  refine ⟨_, fault', failed', ?_⟩
  rw [between, listed.terminalEntries_eq delimited]
  rcases left with ⟨strands, own⟩ | ⟨plain, nothing⟩
  · exact .inl ⟨.inside listed delimited strands, own⟩
  · refine .inr ⟨?_, nothing⟩
    intro strands
    obtain ⟨_, other, _, given, ⟨formed', _⟩ | inside⟩ := strands.exists_listed <;>
      cases delimited.symm.trans given
    · exact formed formed'
    · exact plain inside

/-- A list whose delimiter is in order is rejected for its element type. -/
theorem Listed.rejected_of_element (listed : field.Listed shape)
    (formed : ∀ delimiter, field.delimited = some delimiter → delimiter.WellFormed)
    (qualified : shape.target.isBare = false) : field.Rejected path source identity := by
  obtain ⟨fault, failed⟩ := listed.fragment_of_rejected path source identity (.inl qualified)
  refine ⟨_, fault, failed, ?_⟩
  rcases delimited : field.delimited with _ | delimiter
  · exact .inr ⟨not_strands_of_undelimited delimited, by simp [delimiterFragment, delimited]⟩
  · have formed := formed delimiter delimited
    obtain ⟨entries, inner, rule, compiles⟩ :=
      formed.compiles source (path ++ "_delimiter") (identity ++ ".delimiter")
    have emitted := (delimiterFragment_yields_of_some delimited).mpr
      ⟨inner, rule, Field.fragment_yields_iff.mpr compiles, rfl⟩
    refine .inl ⟨.element listed delimited formed qualified, ?_⟩
    rw [emitted.entries_eq, compiles.entries_eq, listed.terminalEntries_eq delimited]

end Rejection

/-- Every field that is not well formed is rejected. -/
theorem rejected_of_not_wellFormed {field : Field} (ill : ¬ field.WellFormed)
    (path source identity : String) : field.Rejected path source identity := by
  induction field using delimiterInduction generalizing path identity with
  | step field inductionHypothesis =>
    rcases shaped : field.shape with fault | shape
    · refine ⟨[], .atRule source identity fault, ?_, .inr ⟨?_, rfl⟩⟩
      · rw [fragment_eq, shaped]
        rfl
      · intro strands
        obtain ⟨shape, _, listed, _⟩ := strands.exists_listed
        simp [shape_eq_ok_iff.mpr (.inr listed)] at shaped
    rcases shape_eq_ok_iff.mp shaped with single | listed
    · have plain : field.terminal? = none :=
        Option.not_isSome_iff_eq_none.mp fun carried => ill (.single single (.inl carried))
      have qualified : shape.target.isBare = false :=
        Bool.eq_false_iff.mpr fun bare => ill (.single single (.inr bare))
      obtain ⟨fault, failed⟩ := single.fragment_of_rejected path source identity plain qualified
      exact ⟨[], fault, failed, .inr ⟨not_strands_of_undelimited single.undelimited, rfl⟩⟩
    · -- The delimiter is compiled before the element type of the list is looked at.
      by_cases formed : ∀ delimiter, field.delimited = some delimiter → delimiter.WellFormed
      · exact listed.rejected_of_element path source identity formed
          (Bool.eq_false_iff.mpr fun bare => ill (.list listed bare formed))
      · obtain ⟨delimiter, delimited, formed⟩ :
            ∃ delimiter, field.delimited = some delimiter ∧ ¬ delimiter.WellFormed := by
          simpa using formed
        exact listed.rejected_of_delimiter path source identity delimited formed
          (inductionHypothesis delimiter delimited formed _ _)

/-- What is left of a field that fails on a draft, for whichever reason. -/
theorem leaves_of_absorb_fragment {draft after : Draft} {path source identity : String}
    {field : Field} {error : SchemaError}
    (failed : draft.absorb id (field.fragment path source identity) = (after, .error error)) :
    ∃ left, after = draft.append left ∧ field.Leaves draft path source left := by
  by_cases formed : field.WellFormed
  · -- The only way for it to fail is that the name of its terminal is taken.
    obtain ⟨entries, shape, rule, compiles⟩ := formed.compiles source path identity
    have yields := fragment_yields_iff.mpr compiles
    have single := field.length_terminalEntries_le path source
    rw [← compiles.entries_eq, ← yields.entries_eq] at single
    rcases draft.absorb_of_length_le_one _ single with ⟨_, absorbed⟩ | ⟨_, fault, absorbed⟩
    · rw [absorbed, yields.result_eq] at failed
      cases failed
    · rw [absorbed] at failed
      cases failed
      exact ⟨[], by simp, .inr ⟨fun both => formed.not_strands both.1, rfl⟩⟩
  · obtain ⟨entries, fault, rejected, ⟨strands, rfl⟩ | ⟨plain, rfl⟩⟩ :=
      rejected_of_not_wellFormed formed path source identity
    · have single : (field.fragment path source identity).entries.length ≤ 1 := by
        rw [rejected]
        exact field.length_terminalEntries_le path source
      rcases draft.absorb_of_length_le_one _ single with ⟨fresh, absorbed⟩ | ⟨taken, _, absorbed⟩
      · rw [rejected] at fresh absorbed
        cases (rejected ▸ failed).symm.trans absorbed
        exact ⟨_, rfl, .inl ⟨strands, fresh, rfl⟩⟩
      · rw [rejected] at taken
        cases failed.symm.trans absorbed
        exact ⟨[], by simp, .inr ⟨fun both => taken both.2, rfl⟩⟩
    · rw [rejected] at failed
      cases failed
      exact ⟨[], by simp, .inr ⟨fun both => plain both.1, rfl⟩⟩

theorem leaves_of_absorb_member {draft after : Draft} {path : String} {position : Nat}
    {field : Field} {error : SchemaError}
    (failed : draft.absorb id (field.member path position) = (after, .error error)) :
    ∃ left, after = draft.append left ∧
      field.Leaves draft (field.qualifiedPath path position) path left := by
  rcases Draft.absorb_bind_eq_error_iff.mp failed with failed | ⟨_, _, _, impossible⟩
  · exact leaves_of_absorb_fragment failed
  · cases impossible

theorem absorb_member_eq_ok {draft next : Draft} {path : String} {position : Nat} {field : Field}
    {rule : Rule} (compiled : draft.absorb id (field.member path position) = (next, .ok rule)) :
    next = draft.append (field.terminalEntries (field.qualifiedPath path position) path) := by
  obtain ⟨entries, yields, _, rfl⟩ := Draft.absorb_eq_ok_iff.mp compiled
  obtain ⟨_, _, compiles, _⟩ := member_yields_iff.mp yields
  rw [compiles.entries_eq]

theorem absorb_membersFrom_eq_ok {draft next : Draft} {path : String} {position : Nat}
    {fields : List Field} {members : List Rule}
    (compiled : draft.absorb id (membersFrom path position fields) = (next, .ok members)) :
    next = draft.append (terminalsFrom path position fields) := by
  obtain ⟨entries, yields, _, rfl⟩ := Draft.absorb_eq_ok_iff.mp compiled
  rw [(membersFrom_yields_iff.mp yields).entries_eq]

/-- Fields are compiled one after the other, up to the first that fails. -/
theorem exists_of_absorb_membersFrom {draft after : Draft} {path : String} {position : Nat}
    {fields : List Field} {error : SchemaError}
    (failed : draft.absorb id (membersFrom path position fields) = (after, .error error)) :
    ∃ before field behind members, fields = before ++ field :: behind ∧
      draft.absorb id (membersFrom path position before) =
        (draft.append (terminalsFrom path position before), .ok members) ∧
      (draft.append (terminalsFrom path position before)).absorb id
        (field.member path (position + before.length)) = (after, .error error) := by
  induction fields generalizing position draft with
  | nil => cases failed
  | cons field fields inductionHypothesis =>
    rw [membersFrom, Draft.absorb_bind_eq_error_iff] at failed
    rcases failed with failed | ⟨middle, rule, compiled, failed⟩
    · exact ⟨[], field, fields, [], rfl, by simp [membersFrom, Draft.absorb_pure, terminalsFrom],
        by simpa [terminalsFrom] using failed⟩
    · rcases Draft.absorb_bind_eq_error_iff.mp failed with failed | ⟨_, _, _, impossible⟩
      · obtain ⟨before, other, behind, members, rfl, reached, stopped⟩ := inductionHypothesis failed
        obtain rfl := absorb_member_eq_ok compiled
        rw [Draft.append_append] at reached stopped
        refine ⟨field :: before, other, behind, rule :: members, rfl, ?_, ?_⟩
        · simp only [membersFrom, Draft.absorb_bind, compiled, reached, Draft.absorb_pure,
            terminalsFrom]
        · rw [List.length_cons, Nat.add_comm before.length, ← Nat.add_assoc]
          exact stopped
      · cases impossible

end Field

/-- How compiling a record fails on a draft, and the entries that it leaves there. -/
inductive RecordFails {Error : Type} (lift : SchemaError → Error) (draft : Draft) (path : String)
    (fields : List Field) (level : Except Error (Option Level)) (error : Error) :
    List Entry → Prop where
  | atField {before behind : List Field} {field : Field} {members : List Rule} {after : Draft}
      {fault : SchemaError} {left : List Entry} :
      fields = before ++ field :: behind →
      draft.absorb id (Field.members path before) =
        (draft.append (Field.terminalsFrom path 0 before), .ok members) →
      (draft.append (Field.terminalsFrom path 0 before)).absorb id
        (field.member path before.length) = (after, .error fault) →
      lift fault = error →
      field.Leaves (draft.append (Field.terminalsFrom path 0 before))
        (field.qualifiedPath path before.length) path left →
      RecordFails lift draft path fields level error (Field.terminalsFrom path 0 before ++ left)
  | behindFields {members : List Rule} :
      draft.absorb id (Field.members path fields) =
        (draft.append (Field.terminalsFrom path 0 fields), .ok members) →
      level = .error error ∨ path ∈ draft.names →
      RecordFails lift draft path fields level error (Field.terminalsFrom path 0 fields)

namespace RecordFails

variable {Error : Type} {lift : SchemaError → Error} {draft after : Draft} {path : String}
  {fields : List Field} {level : Except Error (Option Level)} {error : Error}

/-- The rule of the record itself is not among what is left. -/
theorem length_lt {left : List Entry}
    (fails : RecordFails lift draft path fields level error left) :
    ∀ entry ∈ left, path.length < entry.name.length := by
  intro entry member
  cases fails with
  | @atField before _ field _ _ _ left _ _ _ _ leaves =>
    rcases List.mem_append.mp member with earlier | member
    · exact Field.length_lt_of_mem_terminalsFrom earlier
    · rcases leaves with ⟨_, _, rfl⟩ | ⟨_, rfl⟩
      · exact Nat.lt_of_lt_of_le (Field.length_lt_qualifiedPath path field before.length)
          (Field.length_le_of_mem_terminalEntries member)
      · cases member
  | behindFields => exact Field.length_lt_of_mem_terminalsFrom member

theorem of_absorb
    (failed : draft.absorb lift (recordWith lift path fields level) = (after, .error error)) :
    ∃ left, after = draft.append left ∧ RecordFails lift draft path fields level error left := by
  rw [recordWith, Draft.absorb_bind_eq_error_iff, Draft.absorb_mapError_eq_error_iff] at failed
  rcases failed with ⟨fault, failed, lifted⟩ | ⟨middle, members, compiled, failed⟩
  · obtain ⟨before, field, behind, members, rfl, reached, stopped⟩ :=
      Field.exists_of_absorb_membersFrom failed
    rw [Nat.zero_add] at stopped
    obtain ⟨left, rfl, leaves⟩ := Field.leaves_of_absorb_member stopped
    exact ⟨_, by rw [Draft.append_append], .atField rfl reached stopped lifted leaves⟩
  · rw [Draft.absorb_mapError_eq_ok_iff] at compiled
    obtain rfl := Field.absorb_membersFrom_eq_ok compiled
    rw [Draft.absorb_bind_eq_error_iff, Draft.absorb_ofResult] at failed
    rcases failed with ordered | ⟨_, precedence, ⟨⟩, failed⟩
    · obtain ⟨rfl, rfl⟩ := Prod.mk.inj ordered
      exact ⟨_, rfl, .behindFields compiled (.inl rfl)⟩
    · rcases Draft.absorb_bind_eq_error_iff.mp failed with failed | ⟨_, _, _, impossible⟩
      · obtain ⟨taken, rfl, _⟩ := Draft.absorb_emit_eq_error_iff.mp failed
        have before := Draft.mem_names_of_append taken
          fun _ member => Field.length_lt_of_mem_terminalsFrom member
        exact ⟨_, rfl, .behindFields compiled (.inr before)⟩
      · cases impossible

end RecordFails

/-- The entries of variants that are compiled: for each of them the terminals of its fields and its
rule. -/
inductive VariantsCompile (union : TaggedUnion) : List Variant → List Entry → Prop where
  | nil : VariantsCompile union [] []
  | cons {variant : Variant} {rest : List Variant} {rule : Rule} {own back : List Entry} :
      own = Field.terminalsFrom (union.variantPath variant) 0 variant.fields ++
        [⟨union.variantPath variant, rule, union.variantPath variant⟩] →
      (recordRule (union.variantPath variant) variant.fields variant.precedence).Yields own rule →
      VariantsCompile union rest back →
      VariantsCompile union (variant :: rest) (own ++ back)

/-- How compiling a union fails on a draft, and the entries that it leaves there. -/
inductive UnionFails (draft : Draft) (union : TaggedUnion) (error : SchemaError) :
    List Entry → Prop where
  | atVariant {before behind : List Variant} {variant : Variant} {entries left : List Entry} :
      union.variants = before ++ variant :: behind →
      VariantsCompile union before entries → draft.Fresh entries →
      RecordFails id (draft.append entries) (union.variantPath variant) variant.fields
        (.ok variant.precedence) error left →
      UnionFails draft union error (entries ++ left)
  | behindVariants {entries : List Entry} :
      VariantsCompile union union.variants entries → draft.Fresh entries →
      union.name ∈ draft.names → UnionFails draft union error entries

theorem VariantsCompile.cons_of_yields {union : TaggedUnion} {variant : Variant}
    {rest : List Variant} {rule : Rule} {own back : List Entry}
    (yields : (recordRule (union.variantPath variant) variant.fields variant.precedence).Yields own
      rule) (compile : VariantsCompile union rest back) :
    VariantsCompile union (variant :: rest) (own ++ back) := by
  obtain ⟨_, terminals, _, _, members, _, parts⟩ := recordWith_yields_iff.mp yields
  exact .cons (by rw [parts, members.entries_eq]) yields compile

theorem VariantsCompile.of_yields {union : TaggedUnion} {variants : List Variant}
    {entries : List Entry} (yields : (union.variantRules variants).Yields entries ()) :
    VariantsCompile union variants entries := by
  induction variants generalizing entries with
  | nil =>
    obtain rfl := TaggedUnion.variantRules_nil_yields_iff.mp yields
    exact .nil
  | cons variant rest inductionHypothesis =>
    obtain ⟨own, rule, back, opening, closing, rfl⟩ :=
      TaggedUnion.variantRules_cons_yields_iff.mp yields
    exact .cons_of_yields opening (inductionHypothesis closing)

theorem TaggedUnion.length_lt_variantPath (union : TaggedUnion) (variant : Variant) :
    union.name.length < (union.variantPath variant).length := by
  rw [variantPath, String.length_append, String.length_append]
  have : ("_").length = 1 := rfl
  omega

theorem VariantsCompile.length_lt {union : TaggedUnion} {variants : List Variant}
    {entries : List Entry} (compile : VariantsCompile union variants entries) :
    ∀ entry ∈ entries, union.name.length < entry.name.length := by
  induction compile with
  | nil => simp
  | @cons variant rest rule own back parts _ _ inductionHypothesis =>
    intro entry member
    have longer := union.length_lt_variantPath variant
    rcases List.mem_append.mp member with own | later
    · subst parts
      rcases List.mem_append.mp own with terminal | rule
      · exact Nat.lt_trans longer (Field.length_lt_of_mem_terminalsFrom terminal)
      · rw [List.mem_singleton.mp rule]
        exact longer
    · exact inductionHypothesis entry later

namespace TaggedUnion

variable {union : TaggedUnion} {draft after : Draft} {error : SchemaError}

/-- Variants are compiled one after the other, up to the first that fails. -/
theorem exists_of_absorb_variantRules {variants : List Variant}
    (failed : draft.absorb id (union.variantRules variants) = (after, .error error)) :
    ∃ before variant behind entries left, variants = before ++ variant :: behind ∧
      VariantsCompile union before entries ∧ draft.Fresh entries ∧
      after = draft.append (entries ++ left) ∧
      RecordFails id (draft.append entries) (union.variantPath variant) variant.fields
        (.ok variant.precedence) error left := by
  induction variants generalizing draft with
  | nil => cases failed
  | cons variant variants inductionHypothesis =>
    rcases Draft.absorb_bind_eq_error_iff.mp failed with failed | ⟨middle, rule, compiled, failed⟩
    · obtain ⟨left, rfl, fails⟩ := RecordFails.of_absorb failed
      exact ⟨[], variant, variants, [], left, rfl, .nil, draft.fresh_nil, rfl, by simpa using fails⟩
    · obtain ⟨own, yields, fresh, rfl⟩ := Draft.absorb_eq_ok_iff.mp compiled
      obtain ⟨before, other, behind, entries, left, rfl, compile, fresh', rfl, fails⟩ :=
        inductionHypothesis failed
      rw [Draft.append_append] at fails
      exact ⟨variant :: before, other, behind, own ++ entries, left, rfl,
        .cons_of_yields yields compile, Draft.fresh_append_iff.mpr ⟨fresh, fresh'⟩,
        by rw [Draft.append_append, List.append_assoc], fails⟩

theorem unionFails_of_absorb (failed : draft.absorb id union.rule = (after, .error error)) :
    ∃ left, after = draft.append left ∧ UnionFails draft union error left := by
  rcases Draft.absorb_bind_eq_error_iff.mp failed with failed | ⟨middle, _, compiled, failed⟩
  · obtain ⟨before, variant, behind, entries, left, parts, compile, fresh, rfl, fails⟩ :=
      exists_of_absorb_variantRules failed
    exact ⟨_, rfl, .atVariant parts compile fresh fails⟩
  · obtain ⟨entries, yields, fresh, rfl⟩ := Draft.absorb_eq_ok_iff.mp compiled
    have compile := VariantsCompile.of_yields yields
    rcases Draft.absorb_bind_eq_error_iff.mp failed with failed | ⟨_, _, _, impossible⟩
    · obtain ⟨taken, rfl, _⟩ := Draft.absorb_emit_eq_error_iff.mp failed
      have before := Draft.mem_names_of_append taken compile.length_lt
      exact ⟨_, rfl, .behindVariants compile fresh before⟩
    · cases impossible

end TaggedUnion

/-- The rule of the union itself is not among what is left. -/
theorem UnionFails.length_lt {draft : Draft} {union : TaggedUnion} {error : SchemaError}
    {left : List Entry} (fails : UnionFails draft union error left) :
    ∀ entry ∈ left, union.name.length < entry.name.length := by
  intro entry member
  cases fails with
  | @atVariant _ _ variant _ _ _ compile _ fails =>
    rcases List.mem_append.mp member with earlier | member
    · exact compile.length_lt entry earlier
    · exact Nat.lt_trans (union.length_lt_variantPath variant) (fails.length_lt entry member)
  | behindVariants compile => exact compile.length_lt entry member

/-- What a failed compilation leaves in a draft, of a record and of a union. -/
theorem failed_compilation_leaves (draft : Draft) :
    (∀ {Error : Type} (lift : SchemaError → Error) (path : String) (fields : List Field)
        (level : Except Error (Option Level)) (after : Draft) (error : Error),
        draft.absorb lift (recordWith lift path fields level) = (after, .error error) →
        ∃ left, after = draft.append left ∧ path ∉ left.map Entry.name ∧
          RecordFails lift draft path fields level error left) ∧
      ∀ (union : TaggedUnion) (after : Draft) (error : SchemaError),
        draft.absorb id union.rule = (after, .error error) →
        ∃ left, after = draft.append left ∧ union.name ∉ left.map Entry.name ∧
          UnionFails draft union error left := by
  constructor
  · intro Error lift path fields level after error failed
    obtain ⟨left, rfl, fails⟩ := RecordFails.of_absorb failed
    exact ⟨left, rfl, not_mem_names_of_longer fails.length_lt, fails⟩
  · intro union after error failed
    obtain ⟨left, rfl, fails⟩ := TaggedUnion.unionFails_of_absorb failed
    exact ⟨left, rfl, not_mem_names_of_longer fails.length_lt, fails⟩

/-- A name, and items of a qualified type with commas between them. -/
def qualifiedItems : List Field :=
  [⟨some "name", ⟨["String"], []⟩, some ⟨some "[a-z]+", none, none⟩, none, none⟩,
    ⟨some "items", ⟨["Vec"], [⟨["schema", "Item"], []⟩]⟩, none,
      some ⟨none, ⟨[], []⟩, some ⟨none, some ",", none⟩, none, none⟩, none⟩]

/-- The comma remains, although the items are rejected. -/
theorem failed_compilation_leaves_comma :
    ∃ after error left,
      (Draft.new "lists").absorb id (recordWith id "List" qualifiedItems (.ok none)) =
        (after, .error error) ∧
      after = (Draft.new "lists").append left ∧
      left.map Entry.name = ["List_name", "List_items_delimiter"] := by
  obtain ⟨left, same, _, _⟩ :=
    (failed_compilation_leaves (.new "lists")).1 id "List" qualifiedItems (.ok none) _ _ rfl
  exact ⟨_, _, left, rfl, same, congrArg (fun draft => draft.entries.map Entry.name) same.symm⟩

end SchemaGrammar
