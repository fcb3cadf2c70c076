import Mathlib.Data.List.Nodup
import SchemaGrammar.Proofs.Acceptance
import SchemaGrammar.Proofs.Leftovers
import SchemaGrammar.Proofs.Validity
set_option autoImplicit false

/-!
When a record gets in its own way. A terminal is named after its field, with `_delimiter` once for
each level at which it lies, so two fields whose names differ have terminals of one name just when
the one is called like a delimiter of the other (`Imitates`). Other names cannot meet: the names of
checked fields differ, and the path of the record is shorter than the name of every terminal. On a
draft that has no name beginning with this path, a record of well-formed fields is thus compiled
unless two of its fields collide.
-/

namespace SchemaGrammar

/-- Names that some items get by their positions are distinct when no name is given at two of
them. -/
theorem nodup_filterMap_zipIdx_iff {Item Name : Type} {name? : Item × Nat → Option Name}
    {items : List Item} :
    (items.zipIdx.filterMap name?).Nodup ↔
      ∀ (position place : Nat) (item other : Item) (name : Name),
        items[position]? = some item → items[place]? = some other →
        name? (item, position) = some name → name? (other, place) = some name →
        position = place := by
  rw [List.Nodup, List.pairwise_filterMap, List.pairwise_iff_getElem]
  simp only [List.length_zipIdx, List.getElem_zipIdx, Nat.zero_add]
  constructor
  · intro distinct position place item other name first second named named'
    obtain ⟨low, rfl⟩ := List.getElem?_eq_some_iff.mp first
    obtain ⟨low', rfl⟩ := List.getElem?_eq_some_iff.mp second
    rcases Nat.lt_trichotomy position place with less | same | greater
    · exact absurd rfl (distinct position place low low' less name named name named')
    · exact same
    · exact absurd rfl (distinct place position low' low greater name named' name named)
  · intro injective position place low low' less name named name' named' same
    subst same
    have equal := injective position place _ _ name (List.getElem?_eq_getElem low)
      (List.getElem?_eq_getElem low') named named'
    exact absurd equal (Nat.ne_of_lt less)

namespace Draft

/-- An emission that comes to its end is taken as a whole, or up to the first entry whose name is
taken. -/
theorem absorb_cases_of_yields {Error Data : Type} {emission : Emission Error Data}
    {entries : List Entry} {data : Data} (yields : emission.Yields entries data)
    (lift : SchemaError → Error) (draft : Draft) :
    (draft.Fresh entries ∧ draft.absorb lift emission = (draft.append entries, .ok data)) ∨
      ¬ draft.Fresh entries ∧ ∃ front entry rest, entries = front ++ entry :: rest ∧
        entry.name ∈ (draft.append front).names ∧
        draft.absorb lift emission =
          (draft.append front, .error (lift ((draft.append front).duplicate entry))) := by
  rcases draft.addAll_cases entries with
    ⟨fresh, added⟩ | ⟨front, entry, rest, rfl, _, taken, added⟩
  · exact .inl ⟨fresh, by rw [absorb, yields.entries_eq, added, yields.result_eq]⟩
  · refine .inr ⟨?_, front, entry, rest, rfl, taken, by rw [absorb, yields.entries_eq, added]⟩
    intro fresh
    exact (fresh_append_iff.mp fresh).2.new entry (by simp) taken

/-- The one who has taken a name that is new to the draft is the source of the entries behind it. -/
theorem duplicate_append {draft : Draft} {front : List Entry} {entry : Entry} {source : String}
    (new : entry.name ∉ draft.names) (taken : entry.name ∈ (draft.append front).names)
    (owned : ∀ other ∈ front, other.source = source) :
    (draft.append front).duplicate entry =
      .atRule entry.source none (.duplicateRule entry.name draft.grammar (some source)) := by
  have absent : draft.entries.find? (fun other => other.name == entry.name) = none := by
    rw [List.find?_eq_none]
    intro other listed same
    exact new (List.mem_cons_of_mem _ (List.mem_map.mpr ⟨other, listed, by simpa using same⟩))
  rw [names_append, List.mem_append] at taken
  obtain ⟨other, listed, same⟩ := List.mem_map.mp (taken.resolve_left new)
  obtain ⟨owner, found⟩ : ∃ owner, front.find? (fun other => other.name == entry.name) =
      some owner := by
    rw [← Option.isSome_iff_exists, List.find?_isSome]
    exact ⟨other, listed, by simpa using same⟩
  have source := owned owner (List.mem_of_find?_eq_some found)
  simp [duplicate, entry?, append, absent, found, source]

end Draft

namespace Field

/-! ### Names with delimiters behind them -/

theorem delimiterPath_append (front text : String) (depth : Nat) :
    delimiterPath (front ++ text) depth = front ++ delimiterPath text depth := by
  induction depth with
  | zero => rfl
  | succ depth inductionHypothesis =>
    rw [delimiterPath, inductionHypothesis, String.append_assoc, delimiterPath]

theorem delimiterPath_add (text : String) (depth more : Nat) :
    delimiterPath text (depth + more) = delimiterPath (delimiterPath text depth) more := by
  induction more with
  | zero => rfl
  | succ more inductionHypothesis => exact congrArg (· ++ "_delimiter") inductionHypothesis

theorem delimiterPath_inj {text other : String} {depth : Nat} :
    delimiterPath text depth = delimiterPath other depth ↔ text = other := by
  induction depth with
  | zero => rfl
  | succ depth inductionHypothesis =>
    rw [delimiterPath, delimiterPath, String.append_left_inj, inductionHypothesis]

/-- Of two texts that become the same, the one with fewer delimiters behind it has the others in
itself. -/
theorem delimiterPath_eq_iff_of_le {text other : String} {level depth : Nat} (le : level ≤ depth) :
    delimiterPath text depth = delimiterPath other level ↔
      other = delimiterPath text (depth - level) := by
  have parts := delimiterPath_add text (depth - level) level
  rw [Nat.sub_add_cancel le] at parts
  rw [parts, delimiterPath_inj, eq_comm]

theorem isSuffix_delimiterPath (text : String) {depth : Nat} (positive : 0 < depth) :
    "_delimiter".toList <:+ (delimiterPath text depth).toList := by
  obtain ⟨less, rfl⟩ := Nat.exists_eq_add_one_of_ne_zero (Nat.ne_of_gt positive)
  rw [delimiterPath, String.toList_append]
  exact List.suffix_append _ _

/-! ### The identities of checked fields -/

theorem identity_of_unnamed {field : Field} (unnamed : field.name = none) (position : Nat) :
    field.identity position = Nat.repr position := by
  rw [identity, unnamed]
  rfl

theorem identity_of_named {field : Field} {name : String} (named : field.name = some name)
    (position : Nat) : field.identity position = name := by
  rw [identity, named]
  rfl

theorem identity_inj_of_unnamed {field other : Field} {position place : Nat}
    (unnamed : field.name = none) (unnamed' : other.name = none)
    (same : field.identity position = other.identity place) : position = place := by
  rw [identity_of_unnamed unnamed, identity_of_unnamed unnamed'] at same
  have digits : Nat.toDigits 10 position = Nat.toDigits 10 place := by
    rw [← Nat.toList_repr, ← Nat.toList_repr, same]
  calc
    position = Nat.ofDigitChars 10 (Nat.toDigits 10 position) 0 :=
      Nat.ofDigitChars_ten_toDigits.symm
    _ = Nat.ofDigitChars 10 (Nat.toDigits 10 place) 0 := by rw [digits]
    _ = place := Nat.ofDigitChars_ten_toDigits

/-- A number does not end like the path of a delimiter. -/
theorem not_isSuffix_of_unnamed {field : Field} (unnamed : field.name = none) (position : Nat) :
    ¬ "_delimiter".toList <:+ (field.identity position).toList := by
  intro ending
  rw [identity_of_unnamed unnamed, Nat.toList_repr] at ending
  have member : 'r' ∈ Nat.toDigits 10 position := ending.subset (by decide)
  have digit := Nat.isDigit_of_mem_toDigits (by decide) (by decide) member
  exact absurd digit (by decide)

/-- Fields at different positions of a checked record go by different names. -/
theorem WellNamed.identity_inj {fields : List Field} (named : WellNamed fields)
    {position place : Nat} {field other : Field} (first : fields[position]? = some field)
    (second : fields[place]? = some other)
    (same : field.identity position = other.identity place) : position = place := by
  have member := List.mem_of_getElem? first
  have member' := List.mem_of_getElem? second
  rcases named with unnamed | ⟨complete, distinct⟩
  · exact identity_inj_of_unnamed (unnamed field member) (unnamed other member') same
  · obtain ⟨name, given⟩ := Option.isSome_iff_exists.mp (complete field member)
    obtain ⟨name', given'⟩ := Option.isSome_iff_exists.mp (complete other member')
    rw [identity_of_named given, identity_of_named given'] at same
    subst same
    rw [← List.zipIdx_map_fst 0 fields, List.filterMap_map] at distinct
    exact nodup_filterMap_zipIdx_iff.mp distinct position place field other name first second given
      given'

/-! ### Terminals and their names -/

/-- A field carries a terminal: its own, or the one of a delimiter some levels deep. -/
inductive Carries : Field → Nat → Terminal → Prop where
  | own {field : Field} {terminal : Terminal} :
      field.terminal? = some terminal → Carries field 0 terminal
  | delimiter {field delimiter : Field} {depth : Nat} {terminal : Terminal} :
      field.delimited = some delimiter → Carries delimiter depth terminal →
      Carries field (depth + 1) terminal

/-- A well-formed field carries one terminal at most. -/
theorem WellFormed.carries_iff {field : Field} (formed : field.WellFormed) {depth : Nat}
    {terminal : Terminal} :
    field.Carries depth terminal ↔ field.nestedTerminal? = some (depth, terminal) := by
  induction formed generalizing depth with
  | @single field shape single _ =>
    constructor
    · intro carries
      cases carries with
      | own carried => exact nestedTerminal?_of_terminal carried
      | delimiter delimited => simp [single.undelimited] at delimited
    · intro nested
      rcases carried : field.terminal? with _ | own
      · simp [nestedTerminal?_of_plain carried, single.undelimited] at nested
      · cases (nestedTerminal?_of_terminal carried).symm.trans nested
        exact .own carried
  | @list field shape listed _ _ inductionHypothesis =>
    rw [nestedTerminal?_of_plain listed.plain]
    constructor
    · intro carries
      cases carries with
      | own carried => simp [listed.plain] at carried
      | delimiter delimited carries =>
        simp [delimited, (inductionHypothesis _ delimited).mp carries]
    · intro nested
      rcases delimited : field.delimited with _ | delimiter
      · simp [delimited] at nested
      · rw [delimited, Option.bind_some, Option.map_eq_some_iff] at nested
        obtain ⟨⟨level, own⟩, inner, ⟨⟩⟩ := nested
        exact .delimiter delimited ((inductionHypothesis delimiter delimited).mpr inner)

/-- What the record at a path calls the terminal that a field carries at some depth. -/
def terminalPath (path : String) (field : Field) (position depth : Nat) : String :=
  path ++ "_" ++ delimiterPath (field.identity position) depth

theorem delimiterPath_qualifiedPath (path : String) (field : Field) (position depth : Nat) :
    delimiterPath (field.qualifiedPath path position) depth =
      field.terminalPath path position depth :=
  delimiterPath_append (path ++ "_") (field.identity position) depth

theorem WellFormed.terminalName?_eq_some_iff {field : Field} (formed : field.WellFormed)
    {path name : String} {position : Nat} :
    field.terminalName? path position = some name ↔
      ∃ depth terminal, field.Carries depth terminal ∧
        field.terminalPath path position depth = name := by
  simp [terminalName?, formed.carries_iff, delimiterPath_qualifiedPath]

theorem length_lt_terminalPath (path : String) (field : Field) (position depth : Nat) :
    path.length < (field.terminalPath path position depth).length := by
  rw [terminalPath, String.length_append, String.length_append]
  have : ("_").length = 1 := rfl
  omega

theorem isPrefix_terminalPath (path : String) (field : Field) (position depth : Nat) :
    path.toList <+: (field.terminalPath path position depth).toList := by
  rw [terminalPath, String.append_assoc, String.toList_append]
  exact List.prefix_append _ _

theorem source_of_mem_terminalsFrom {path : String} {position : Nat} {fields : List Field}
    {entry : Entry} (member : entry ∈ terminalsFrom path position fields) :
    entry.source = path := by
  induction fields generalizing position with
  | nil => cases member
  | cons field fields inductionHypothesis =>
    rcases List.mem_append.mp member with own | later
    · obtain ⟨_, _, rfl⟩ := Option.map_eq_some_iff.mp (Option.mem_toList.mp own)
      rfl
    · exact inductionHypothesis later

/-- What a well-formed field adds to a draft, whatever comes of it: nothing, or the terminal that it
carries. -/
theorem WellFormed.added {field : Field} (formed : field.WellFormed) (draft : Draft)
    (path source identity : String) :
    ∃ left, (draft.absorb id (field.fragment path source identity)).1 = draft.append left ∧
      (left = [] ∨ ∃ depth terminal, field.Carries depth terminal ∧
        left = [⟨delimiterPath path depth, terminal.rule, source⟩]) := by
  obtain ⟨entries, shape, rule, compiles⟩ := formed.compiles source path identity
  have emitted := (fragment_yields_iff.mpr compiles).entries_eq
  rw [compiles.entries_eq] at emitted
  have single := field.length_terminalEntries_le path source
  rw [← emitted] at single
  rcases draft.absorb_of_length_le_one _ single with ⟨_, absorbed⟩ | ⟨_, _, absorbed⟩
  · refine ⟨field.terminalEntries path source, by rw [absorbed, emitted], ?_⟩
    rcases nested : field.nestedTerminal? with _ | ⟨depth, terminal⟩
    · exact .inl (by simp [terminalEntries, nested])
    · exact .inr ⟨depth, terminal, formed.carries_iff.mpr nested, by simp [terminalEntries, nested]⟩
  · exact ⟨[], by rw [absorbed, Draft.append_nil], .inl rfl⟩

/-- A field is called like the delimiter of another field at the level where the terminals of both
get one name. -/
def Imitates (field : Field) (position : Nat) (other : Field) (place : Nat) : Prop :=
  ∃ (depth level : Nat) (terminal inner : Terminal),
    field.Carries depth terminal ∧ other.Carries level inner ∧ depth < level ∧
      field.identity position = delimiterPath (other.identity place) (level - depth)

/-- Of two fields with different names one imitates the other when their terminals share a name,
and only then. -/
theorem exists_terminalName?_iff {field other : Field} {position place : Nat}
    (formed : field.WellFormed) (formed' : other.WellFormed)
    (apart : field.identity position ≠ other.identity place) (path : String) :
    (∃ name, field.terminalName? path position = some name ∧
        other.terminalName? path place = some name) ↔
      field.Imitates position other place ∨ other.Imitates place field position := by
  simp only [formed.terminalName?_eq_some_iff, formed'.terminalName?_eq_some_iff, terminalPath]
  constructor
  · rintro ⟨_, ⟨depth, terminal, carries, rfl⟩, level, inner, carries', same⟩
    rw [String.append_right_inj] at same
    -- What the deeper terminal has more behind it stands in the name of the other field.
    rcases Nat.lt_trichotomy depth level with less | rfl | greater
    · exact .inl ⟨depth, level, terminal, inner, carries, carries', less,
        (delimiterPath_eq_iff_of_le (Nat.le_of_lt less)).mp same⟩
    · exact absurd (delimiterPath_inj.mp same).symm apart
    · exact .inr ⟨level, depth, inner, terminal, carries', carries, greater,
        (delimiterPath_eq_iff_of_le (Nat.le_of_lt greater)).mp same.symm⟩
  · rintro (⟨depth, level, terminal, inner, carries, carries', less, called⟩ |
      ⟨level, depth, inner, terminal, carries', carries, less, called⟩)
    all_goals have same := (delimiterPath_eq_iff_of_le (Nat.le_of_lt less)).mpr called
    · exact ⟨_, ⟨depth, terminal, carries, rfl⟩, level, inner, carries', by rw [same]⟩
    · exact ⟨_, ⟨depth, terminal, carries, rfl⟩, level, inner, carries', by rw [same]⟩

/-- The name of a field that imitates another one ends like the path of a delimiter. -/
theorem Imitates.isSuffix {field other : Field} {position place : Nat}
    (imitates : field.Imitates position other place) :
    "_delimiter".toList <:+ (field.identity position).toList := by
  obtain ⟨depth, level, _, _, _, _, less, called⟩ := imitates
  rw [called]
  exact isSuffix_delimiterPath _ (Nat.sub_pos_of_lt less)

end Field

/-- Two fields of a record, one of which imitates the other. -/
def Collision (fields : List Field) : Prop :=
  ∃ (position place : Nat) (field other : Field), position ≠ place ∧
    fields[position]? = some field ∧ fields[place]? = some other ∧
      field.Imitates position other place

namespace Collision

variable {fields : List Field}

/-- A collision needs a field that is called like a delimiter. -/
theorem exists_name (collision : Collision fields) :
    ∃ field ∈ fields, ∃ name, field.name = some name ∧ "_delimiter".toList <:+ name.toList := by
  obtain ⟨position, place, field, other, _, found, _, imitates⟩ := collision
  have ending := imitates.isSuffix
  refine ⟨field, List.mem_of_getElem? found, ?_⟩
  rcases named : field.name with _ | name
  · exact absurd ending (Field.not_isSuffix_of_unnamed named position)
  · rw [Field.identity_of_named named] at ending
    exact ⟨name, rfl, ending⟩

end Collision

/-! ### The names of a record -/

theorem exists_of_mem_terminalNames {path name : String} {fields : List Field}
    (formed : ∀ field ∈ fields, field.WellFormed)
    (listed : name ∈ fields.zipIdx.filterMap fun (field, position) =>
      field.terminalName? path position) :
    ∃ field position depth, name = Field.terminalPath path field position depth := by
  obtain ⟨⟨field, position⟩, place, called⟩ := List.mem_filterMap.mp listed
  have member : field ∈ fields := List.mem_of_getElem? (List.mem_zipIdx_iff_getElem?.mp place)
  obtain ⟨depth, _, _, rfl⟩ := (formed field member).terminalName?_eq_some_iff.mp called
  exact ⟨field, position, depth, rfl⟩

theorem isPrefix_of_mem_recordNames {path name : String} {fields : List Field}
    (formed : ∀ field ∈ fields, field.WellFormed) (listed : name ∈ recordNames path fields) :
    path.toList <+: name.toList := by
  rcases List.mem_append.mp listed with terminal | own
  · obtain ⟨field, position, depth, rfl⟩ := exists_of_mem_terminalNames formed terminal
    exact field.isPrefix_terminalPath path position depth
  · obtain rfl := List.mem_singleton.mp own
    exact List.prefix_rfl

/-- The names of a record of well-formed fields are distinct unless two of the fields collide. -/
theorem nodup_recordNames_iff {fields : List Field} (named : Field.WellNamed fields)
    (formed : ∀ field ∈ fields, field.WellFormed) (path : String) :
    (recordNames path fields).Nodup ↔ ¬ Collision fields := by
  -- The path of the record is shorter than the names of all terminals.
  have own : path ∉ fields.zipIdx.filterMap fun (field, position) =>
      field.terminalName? path position := by
    intro listed
    obtain ⟨field, position, depth, same⟩ := exists_of_mem_terminalNames formed listed
    have longer := field.length_lt_terminalPath path position depth
    rw [← same] at longer
    exact Nat.lt_irrefl _ longer
  have shared {position place : Nat} {field other : Field} (apart : position ≠ place)
      (first : fields[position]? = some field) (second : fields[place]? = some other) :
      (∃ name, field.terminalName? path position = some name ∧
          other.terminalName? path place = some name) ↔
        field.Imitates position other place ∨ other.Imitates place field position :=
    Field.exists_terminalName?_iff (formed field (List.mem_of_getElem? first))
      (formed other (List.mem_of_getElem? second))
      (fun same => apart (named.identity_inj first second same)) path
  rw [recordNames, ← List.concat_eq_append, List.nodup_concat, and_iff_right own,
    nodup_filterMap_zipIdx_iff]
  constructor
  · intro injective collision
    obtain ⟨position, place, field, other, apart, first, second, imitates⟩ := collision
    obtain ⟨name, called, called'⟩ := (shared apart first second).mpr (.inl imitates)
    exact apart (injective position place field other name first second called called')
  · intro free position place field other name first second called called'
    refine Decidable.byContradiction fun apart => free ?_
    rcases (shared apart first second).mp ⟨name, called, called'⟩ with imitates | imitates
    · exact ⟨position, place, field, other, apart, first, second, imitates⟩
    · exact ⟨place, position, other, field, Ne.symm apart, second, first, imitates⟩

/-! ### Records on a draft -/

section Record

variable {draft : Draft} {path : String} {fields : List Field} {level : Option Level}
  {entries : List Entry} {rule : Rule}

theorem source_of_record (yields : (recordRule path fields level).Yields entries rule) :
    ∀ entry ∈ entries, entry.source = path := by
  obtain ⟨_, terminals, members, _, compile, _, rfl⟩ := recordWith_yields_iff.mp yields
  rw [compile.entries_eq]
  intro entry listed
  rcases List.mem_append.mp listed with terminal | own
  · exact Field.source_of_mem_terminalsFrom terminal
  · rw [List.mem_singleton.mp own]

theorem not_mem_names_of_record (yields : (recordRule path fields level).Yields entries rule)
    (apart : ∀ name ∈ draft.names, ¬ path.toList <+: name.toList) :
    ∀ entry ∈ entries, entry.name ∉ draft.names := by
  obtain ⟨names, formed⟩ := recordNames_of_yields yields
  intro entry listed known
  refine apart entry.name known (isPrefix_of_mem_recordNames formed ?_)
  rw [← names]
  exact List.mem_map_of_mem listed

theorem fresh_record_iff (yields : (recordRule path fields level).Yields entries rule)
    (named : Field.WellNamed fields)
    (apart : ∀ name ∈ draft.names, ¬ path.toList <+: name.toList) :
    draft.Fresh entries ↔ ¬ Collision fields := by
  obtain ⟨names, formed⟩ := recordNames_of_yields yields
  rw [← nodup_recordNames_iff named formed path, ← names]
  constructor
  · intro fresh
    exact fresh.distinct
  · intro distinct
    exact ⟨not_mem_names_of_record yields apart, distinct⟩

/-- A record is compiled, or it fails for a name that it has taken itself. -/
theorem absorb_record_cases (named : Field.WellNamed fields)
    (formed : ∀ field ∈ fields, field.WellFormed)
    (apart : ∀ name ∈ draft.names, ¬ path.toList <+: name.toList) (level : Option Level) :
    (¬ Collision fields ∧
        ∃ after rule, draft.absorb id (recordRule path fields level) = (after, .ok rule)) ∨
      Collision fields ∧ ∃ after name,
        draft.absorb id (recordRule path fields level) =
          (after, .error (.atRule path none (.duplicateRule name draft.grammar (some path)))) := by
  obtain ⟨entries, rule, yields⟩ := exists_recordRule_yields path level formed
  have free := fresh_record_iff yields named apart
  rcases Draft.absorb_cases_of_yields yields id draft with
    ⟨fresh, absorbed⟩ | ⟨stale, front, entry, rest, rfl, taken, absorbed⟩
  · exact .inl ⟨free.mp fresh, _, rule, absorbed⟩
  · have collision : Collision fields := Classical.byContradiction fun none => stale (free.mpr none)
    refine .inr ⟨collision, draft.append front, entry.name, ?_⟩
    -- The draft did not have the name before, so an entry in front of this one has it.
    have new : entry.name ∉ draft.names := not_mem_names_of_record yields apart entry (by simp)
    have source : entry.source = path := source_of_record yields entry (by simp)
    have owned : ∀ other ∈ front, other.source = path :=
      fun other listed => source_of_record yields other (List.mem_append_left _ listed)
    rw [absorbed, Draft.duplicate_append new taken owned, source]
    rfl

end Record

/-- On a draft in which no name begins with its path, a record of checked and well-formed fields
fails for a name that is taken just when two of its fields collide, and then it has taken that name
itself. Fields without names never collide, nor do fields none of which has a name that ends in
`_delimiter`. A field adds its one terminal to the draft, or nothing. -/
theorem collisions_of_record {draft : Draft} {path : String} {fields : List Field}
    (level : Option Level) (checked : Field.violation? fields = none)
    (formed : ∀ field ∈ fields, field.WellFormed)
    (apart : ∀ name ∈ draft.names, ¬ path.toList <+: name.toList) :
    ((∃ after error, draft.absorb id (recordRule path fields level) = (after, .error error) ∧
        error.fault.isDuplicate = true) ↔ Collision fields) ∧
      (∀ after error, draft.absorb id (recordRule path fields level) = (after, .error error) →
        ∃ name, error = .atRule path none (.duplicateRule name draft.grammar (some path))) ∧
      ((∀ field ∈ fields, field.name = none) →
        ∃ after rule, draft.absorb id (recordRule path fields level) = (after, .ok rule)) ∧
      ((∀ field ∈ fields, ∀ name ∈ field.name, ¬ "_delimiter".toList <:+ name.toList) →
        ∃ after rule, draft.absorb id (recordRule path fields level) = (after, .ok rule)) ∧
      ∀ field ∈ fields, ∀ (before : Draft) (place source identity : String),
        ∃ left, (before.absorb id (field.fragment place source identity)).1 = before.append left ∧
          (left = [] ∨ ∃ depth terminal, field.Carries depth terminal ∧
            left = [⟨Field.delimiterPath place depth, terminal.rule, source⟩]) := by
  have named := Field.violation?_eq_none_iff.mp checked
  have cases := absorb_record_cases named formed apart level
  have compiled (free : ¬ Collision fields) :
      ∃ after rule, draft.absorb id (recordRule path fields level) = (after, .ok rule) := by
    rcases cases with ⟨_, compiled⟩ | ⟨collision, _⟩
    · exact compiled
    · exact absurd collision free
  refine ⟨⟨?_, ?_⟩, ?_, ?_, ?_, ?_⟩
  · rintro ⟨after, error, failed, _⟩
    rcases cases with ⟨_, _, _, absorbed⟩ | ⟨collision, _⟩
    · cases failed.symm.trans absorbed
    · exact collision
  · intro collision
    rcases cases with ⟨free, _⟩ | ⟨_, after, name, failed⟩
    · exact absurd collision free
    · exact ⟨after, _, failed, rfl⟩
  · intro after error failed
    rcases cases with ⟨_, _, _, absorbed⟩ | ⟨_, _, name, absorbed⟩
    · cases failed.symm.trans absorbed
    · cases failed.symm.trans absorbed
      exact ⟨name, rfl⟩
  · intro unnamed
    refine compiled fun collision => ?_
    obtain ⟨field, member, name, called, _⟩ := collision.exists_name
    simp [unnamed field member] at called
  · intro plain
    refine compiled fun collision => ?_
    obtain ⟨field, member, name, called, ending⟩ := collision.exists_name
    exact plain field member name called ending
  · intro field member before place source identity
    exact (formed field member).added before place source identity

/-- Items with lists between them, and a list that is called like the one between the items. -/
def shadowedFields : List Field :=
  [⟨some "items", ⟨["Vec"], [⟨["Item"], []⟩]⟩, none,
      some ⟨none, ⟨["Vec"], [⟨["Gap"], []⟩]⟩, none,
        some ⟨none, ⟨[], []⟩, some ⟨none, some ",", none⟩, none, none⟩, none⟩, none⟩,
    ⟨some "items_delimiter", ⟨["Vec"], [⟨["Mark"], []⟩]⟩, none,
      some ⟨none, ⟨[], []⟩, some ⟨some "[;:]", none, none⟩, none, none⟩, some ⟨true⟩⟩]

/-- Both lists want a terminal `List_items_delimiter_delimiter`. -/
theorem shadowedFields_collide :
    Field.violation? shadowedFields = none ∧ Collision shadowedFields ∧
      ∃ after error,
        (Draft.new "lists").absorb id (recordRule "List" shadowedFields none) =
          (after, .error error) ∧
        error.fault.isDuplicate = true := by
  have checked : Field.violation? shadowedFields = none :=
    Field.violation?_eq_none_iff.mpr (.inr ⟨by decide, by decide⟩)
  have yields : (recordRule "List" shadowedFields none).Yields _ _ := rfl
  have apart : ∀ name ∈ (Draft.new "lists").names, ¬ "List".toList <+: name.toList := by decide
  have collision : Collision shadowedFields :=
    ⟨1, 0, _, _, by decide, rfl, rfl, 1, 2, _, _, .delimiter rfl (.own rfl),
      .delimiter rfl (.delimiter rfl (.own rfl)), by decide, rfl⟩
  exact ⟨checked, collision,
    (collisions_of_record none checked (recordNames_of_yields yields).2 apart).1.mpr collision⟩

end SchemaGrammar
