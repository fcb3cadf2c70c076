import SchemaGrammar.Draft
import SchemaGrammar.Proofs.Shape
set_option autoImplicit false

/-!
What an emission yields, and what a draft makes of it. `Yields` is inverted once for each way to
build an emission, so that the compiler is taken apart without being unfolded. A draft absorbs an
emission exactly when the emission comes to its end and its names are new and distinct; the entries
are then appended in order.
-/

namespace SchemaGrammar

namespace Emission

variable {Error Other Data Next : Type}

/-- The emission comes to its end with these entries and these data. -/
def Yields (emission : Emission Error Data) (entries : List Entry) (data : Data) : Prop :=
  emission = ⟨entries, .ok data⟩

theorem yields_iff {emission : Emission Error Data} {entries : List Entry} {data : Data} :
    emission.Yields entries data ↔ emission.entries = entries ∧ emission.result = .ok data := by
  rcases emission with ⟨front, result⟩
  simp [Yields]

theorem Yields.entries_eq {emission : Emission Error Data} {entries : List Entry} {data : Data}
    (yields : emission.Yields entries data) : emission.entries = entries :=
  (yields_iff.mp yields).1

theorem Yields.result_eq {emission : Emission Error Data} {entries : List Entry} {data : Data}
    (yields : emission.Yields entries data) : emission.result = .ok data :=
  (yields_iff.mp yields).2

@[simp]
theorem yields_pure {made data : Data} {entries : List Entry} :
    (pure made : Emission Error Data).Yields entries data ↔ entries = [] ∧ made = data := by
  simp [yields_iff, eq_comm]

@[simp]
theorem yields_emit {entry : Entry} {entries : List Entry} {data : Unit} :
    (emit entry : Emission Error Unit).Yields entries data ↔ entries = [entry] := by
  simp [yields_iff, emit, eq_comm]

@[simp]
theorem yields_ofResult {result : Except Error Data} {entries : List Entry} {data : Data} :
    (ofResult result).Yields entries data ↔ entries = [] ∧ result = .ok data := by
  simp [yields_iff, ofResult, eq_comm]

@[simp]
theorem yields_located {rule : String} {field : Option String} {result : Except SchemaFault Data}
    {entries : List Entry} {data : Data} :
    (located rule field result).Yields entries data ↔ entries = [] ∧ result = .ok data := by
  simp [located, mapError_eq_ok_iff]

@[simp]
theorem yields_mapError {convert : Error → Other} {emission : Emission Error Data}
    {entries : List Entry} {data : Data} :
    (emission.mapError convert).Yields entries data ↔ emission.Yields entries data := by
  simp [yields_iff, mapError, mapError_eq_ok_iff]

@[simp]
theorem yields_bind {first : Emission Error Data} {next : Data → Emission Error Next}
    {entries : List Entry} {data : Next} :
    (first >>= next).Yields entries data ↔
      ∃ front middle back, first.Yields front middle ∧ (next middle).Yields back data ∧
        front ++ back = entries := by
  rcases outcome : first.result with error | middle
  · simp [bind_of_error outcome, yields_iff, outcome]
  · rw [bind_of_ok outcome]
    constructor
    · intro yields
      obtain ⟨joined, finished⟩ := yields_iff.mp yields
      exact ⟨first.entries, middle, (next middle).entries, yields_iff.mpr ⟨rfl, outcome⟩,
        yields_iff.mpr ⟨rfl, finished⟩, joined⟩
    · intro parts
      rcases parts with ⟨front, between, back, opening, closing, joined⟩
      have same : middle = between := by
        have := opening.result_eq
        simp_all
      subst same
      rw [yields_iff]
      exact ⟨by rw [opening.entries_eq, closing.entries_eq, joined], closing.result_eq⟩

theorem located_ok_bind {rule : String} {field : Option String} (data : Data)
    (next : Data → Emission SchemaError Next) :
    (located rule field (.ok data) >>= next) = next data := by
  have ended : (located rule field (.ok data)).result = .ok data := rfl
  rw [bind_of_ok ended]
  simp [located, ofResult]

end Emission

namespace Draft

/-- No entry has the name of a rule of the draft, or that of another entry. -/
structure Fresh (draft : Draft) (entries : List Entry) : Prop where
  new : ∀ entry ∈ entries, entry.name ∉ draft.names
  distinct : (entries.map Entry.name).Nodup

theorem fresh_nil (draft : Draft) : draft.Fresh [] :=
  ⟨by simp, List.nodup_nil⟩

/-- The draft with further entries at its end. -/
def append (draft : Draft) (entries : List Entry) : Draft :=
  { draft with entries := draft.entries ++ entries }

@[simp]
theorem append_nil (draft : Draft) : draft.append [] = draft := by
  simp [append]

theorem append_append (draft : Draft) (front back : List Entry) :
    (draft.append front).append back = draft.append (front ++ back) := by
  simp [append]

@[simp]
theorem names_append (draft : Draft) (entries : List Entry) :
    (draft.append entries).names = draft.names ++ entries.map Entry.name := by
  simp [append, names]

@[simp]
theorem names_new (grammar : String) : (new grammar).names = [startRule] := rfl

theorem add_eq_ok_iff {entry : Entry} {draft next : Draft} :
    draft.add entry = .ok next ↔ entry.name ∉ draft.names ∧ next = draft.append [entry] := by
  unfold add contains
  split <;> rename_i taken
  · simp_all
  · simp_all [append, eq_comm]

/-- The fault of an entry whose name is taken, reported with the source that took it. -/
def duplicate (draft : Draft) (entry : Entry) : SchemaError :=
  .atRule entry.source none
    (.duplicateRule entry.name draft.grammar ((draft.entry? entry.name).map Entry.source))

theorem add_eq_error_iff {entry : Entry} {draft : Draft} {error : SchemaError} :
    draft.add entry = .error error ↔ entry.name ∈ draft.names ∧ error = draft.duplicate entry := by
  unfold add contains duplicate
  split <;> rename_i taken
  · simp_all [eq_comm]
  · simp_all

theorem fresh_cons_iff {draft : Draft} {entry : Entry} {rest : List Entry} :
    draft.Fresh (entry :: rest) ↔
      entry.name ∉ draft.names ∧ (draft.append [entry]).Fresh rest := by
  constructor
  · intro fresh
    rcases fresh with ⟨new, distinct⟩
    rw [List.map_cons, List.nodup_cons] at distinct
    refine ⟨new entry (by simp), ?_, distinct.2⟩
    intro other member known
    simp only [names_append, List.map_cons, List.map_nil, List.mem_append,
      List.mem_singleton] at known
    rcases known with known | equality
    · exact new other (by simp [member]) known
    · exact distinct.1 (List.mem_map.mpr ⟨other, member, equality⟩)
  · intro conditions
    rcases conditions with ⟨unknown, new, distinct⟩
    constructor
    · intro other member
      rcases List.mem_cons.mp member with rfl | member
      · exact unknown
      · exact fun known => new other member (by simp [known])
    · rw [List.map_cons, List.nodup_cons]
      refine ⟨?_, distinct⟩
      intro repeated
      obtain ⟨other, member, equality⟩ := List.mem_map.mp repeated
      exact new other member (by simp [equality])

theorem fresh_append_iff {draft : Draft} {front back : List Entry} :
    draft.Fresh (front ++ back) ↔ draft.Fresh front ∧ (draft.append front).Fresh back := by
  induction front generalizing draft with
  | nil => simp [fresh_nil]
  | cons entry front inductionHypothesis =>
    rw [List.cons_append, fresh_cons_iff, fresh_cons_iff, inductionHypothesis, append_append,
      and_assoc, List.singleton_append]

/-- All entries are added when they are fresh, and only then. -/
theorem addAll_eq_ok_iff {entries : List Entry} {draft next : Draft} :
    draft.addAll entries = (next, .ok ()) ↔ draft.Fresh entries ∧ next = draft.append entries := by
  induction entries generalizing draft with
  | nil => simp [addAll, fresh_nil, eq_comm]
  | cons entry rest inductionHypothesis =>
    rw [fresh_cons_iff]
    unfold addAll
    rcases added : draft.add entry with error | longer
    · have taken : ¬ entry.name ∉ draft.names := by
        intro unknown
        have := add_eq_ok_iff.mpr ⟨unknown, rfl⟩
        simp_all
      simp [taken]
    · obtain ⟨unknown, rfl⟩ := add_eq_ok_iff.mp added
      simp [inductionHypothesis, unknown, append_append]

/-- Entries are added up to the first one whose name is taken. -/
theorem addAll_cases (draft : Draft) (entries : List Entry) :
    (draft.Fresh entries ∧ draft.addAll entries = (draft.append entries, .ok ())) ∨
      ∃ front entry rest, entries = front ++ entry :: rest ∧ draft.Fresh front ∧
        entry.name ∈ (draft.append front).names ∧
        draft.addAll entries =
          (draft.append front, .error ((draft.append front).duplicate entry)) := by
  induction entries generalizing draft with
  | nil => exact .inl ⟨fresh_nil draft, by simp [addAll]⟩
  | cons entry rest inductionHypothesis =>
    unfold addAll
    rcases added : draft.add entry with error | longer
    · obtain ⟨taken, rfl⟩ := add_eq_error_iff.mp added
      exact .inr ⟨[], entry, rest, rfl, fresh_nil draft, by simpa using taken, by simp⟩
    · obtain ⟨unknown, rfl⟩ := add_eq_ok_iff.mp added
      rcases inductionHypothesis (draft.append [entry]) with
        ⟨fresh, reached⟩ | ⟨front, other, after, rfl, fresh, taken, reached⟩
      · refine .inl ⟨fresh_cons_iff.mpr ⟨unknown, fresh⟩, ?_⟩
        simpa [append_append] using reached
      · refine .inr ⟨entry :: front, other, after, rfl, fresh_cons_iff.mpr ⟨unknown, fresh⟩, ?_⟩
        simpa [append_append] using And.intro taken reached

/-- A draft takes entries of an emission from its beginning on. It answers what the emission
answers, unless it came upon a name that is taken. -/
theorem absorb_cases {Error Data : Type} (lift : SchemaError → Error)
    (emission : Emission Error Data) (draft : Draft) :
    ∃ front, front <+: emission.entries ∧ draft.Fresh front ∧
      (draft.absorb lift emission = (draft.append front, emission.result) ∨
        ∃ entry, entry.name ∈ (draft.append front).names ∧
          draft.absorb lift emission =
            (draft.append front, .error (lift ((draft.append front).duplicate entry)))) := by
  unfold absorb
  rcases draft.addAll_cases emission.entries with
    ⟨fresh, reached⟩ | ⟨front, entry, rest, parts, fresh, taken, reached⟩
  · exact ⟨emission.entries, List.prefix_rfl, fresh, .inl (by rw [reached])⟩
  · exact ⟨front, parts ▸ List.prefix_append _ _, fresh, .inr ⟨entry, taken, by rw [reached]⟩⟩

/-- An emission is absorbed when it comes to its end with fresh entries, and only then. -/
theorem absorb_eq_ok_iff {Error Data : Type} {lift : SchemaError → Error}
    {emission : Emission Error Data} {draft next : Draft} {data : Data} :
    draft.absorb lift emission = (next, .ok data) ↔
      ∃ entries, emission.Yields entries data ∧ draft.Fresh entries ∧
        next = draft.append entries := by
  unfold absorb
  constructor
  · intro absorbed
    split at absorbed
    · rename_i reached added
      obtain ⟨rfl, finished⟩ := Prod.mk.inj absorbed
      obtain ⟨fresh, rfl⟩ := addAll_eq_ok_iff.mp added
      exact ⟨emission.entries, Emission.yields_iff.mpr ⟨rfl, finished⟩, fresh, rfl⟩
    · simp at absorbed
  · intro conditions
    rcases conditions with ⟨entries, yields, fresh, rfl⟩
    rw [yields.entries_eq, addAll_eq_ok_iff.mpr ⟨fresh, rfl⟩, yields.result_eq]

theorem find?_of_mem {entries : List Entry} {entry : Entry}
    (distinct : (entries.map Entry.name).Nodup) (member : entry ∈ entries) :
    entries.find? (fun other => other.name == entry.name) = some entry := by
  rw [List.find?_eq_some_iff_append]
  obtain ⟨before, after, rfl⟩ := List.append_of_mem member
  refine ⟨by simp, before, after, rfl, ?_⟩
  intro other earlier
  rw [List.map_append, List.map_cons] at distinct
  have apart := (List.nodup_append.mp distinct).2.2 other.name (List.mem_map_of_mem earlier)
    entry.name (by simp)
  simpa using apart

/-- Every entry of a draft with distinct names is found under its name. -/
theorem get?_of_mem {draft : Draft} {entry : Entry} (distinct : draft.names.Nodup)
    (member : entry ∈ draft.entries) : draft.get? entry.name = some entry.rule := by
  obtain ⟨unreserved, apart⟩ := List.nodup_cons.mp distinct
  have notStart : entry.name ≠ startRule :=
    fun equality => unreserved (equality ▸ List.mem_map_of_mem member)
  simp [get?, entry?, notStart, find?_of_mem apart member]

/-- Fresh entries are found under their names once they are appended. -/
theorem get?_append_of_mem {draft : Draft} {entries : List Entry} {entry : Entry}
    (fresh : draft.Fresh entries) (member : entry ∈ entries) :
    (draft.append entries).get? entry.name = some entry.rule := by
  have unknown := fresh.new entry member
  rw [names, List.mem_cons, not_or] at unknown
  have absent : draft.entries.find? (fun other => other.name == entry.name) = none := by
    rw [List.find?_eq_none]
    intro other listed same
    exact unknown.2 (List.mem_map.mpr ⟨other, listed, by simpa using same⟩)
  simp [get?, entry?, append, unknown.1, absent, find?_of_mem fresh.distinct member]

end Draft

end SchemaGrammar
