import SchemaGrammar.Schema.Reader
set_option autoImplicit false

/-!
What readers accept. Every way to build a reader is inverted once, so that the data that a reader
yields are taken apart without unfolding it; the lemmas on single keys also say when data come back
from a table. The readings of nested data are a fold over the value: what holds of the data read at
a table whenever it holds of the data read in it holds of all data that are read.
-/

namespace SchemaGrammar

namespace Checked

variable {Data Other : Type}

@[simp]
theorem fault_ne_valid {problem : Fault} {data : Data} :
    (fault problem : Checked Data) ≠ .valid data := by
  simp [fault]

theorem map_eq_valid_iff {convert : Data → Other} {checked : Checked Data} {made : Other} :
    checked.map convert = .valid made ↔ ∃ data, checked = .valid data ∧ convert data = made := by
  cases checked <;> simp [map]

theorem fmap_eq_valid_iff {convert : Data → Other} {checked : Checked Data} {made : Other} :
    convert <$> checked = .valid made ↔ ∃ data, checked = .valid data ∧ convert data = made :=
  map_eq_valid_iff

theorem seq_eq_valid_iff {first : Checked (Data → Other)} {second : Checked Data} {made : Other} :
    first <*> second = .valid made ↔
      ∃ convert data, first = .valid convert ∧ second = .valid data ∧ convert data = made := by
  change apply first second = .valid made ↔ _
  cases first <;> cases second <;> simp [apply]

theorem map_of_valid {checked : Checked Data} {data : Data} (convert : Data → Other)
    (read : checked = .valid data) : convert <$> checked = .valid (convert data) :=
  fmap_eq_valid_iff.mpr ⟨data, read, rfl⟩

theorem apply_of_valid {first : Checked (Data → Other)} {second : Checked Data}
    {convert : Data → Other} {data : Data} (left : first = .valid convert)
    (right : second = .valid data) : first <*> second = .valid (convert data) :=
  seq_eq_valid_iff.mpr ⟨convert, data, left, right, rfl⟩

theorem inside_eq_valid_iff {step : Step} {checked : Checked Data} {data : Data} :
    checked.inside step = .valid data ↔ checked = .valid data := by
  cases checked <;> simp [inside]

theorem withProblems_eq_valid_iff {problems : List Problem} {checked : Checked Data}
    {data : Data} :
    checked.withProblems problems = .valid data ↔ checked = .valid data ∧ problems = [] := by
  cases checked with
  | valid read => cases problems <;> simp [withProblems]
  | invalid earlier => simp [withProblems]

theorem andThen_eq_valid_iff {check : Data → Checked Other} {checked : Checked Data}
    {made : Other} :
    andThen check checked = .valid made ↔
      ∃ data, checked = .valid data ∧ check data = .valid made := by
  cases checked <;> simp [andThen]

theorem obeying_eq_valid_iff {violation? : Data → Option Violation} {checked : Checked Data}
    {data : Data} :
    obeying violation? checked = .valid data ↔ checked = .valid data ∧ violation? data = none := by
  rw [obeying, andThen_eq_valid_iff]
  constructor
  · intro obeyed
    rcases obeyed with ⟨read, found, allowed⟩
    split at allowed <;> rename_i broken
    · cases allowed
      exact ⟨found, broken⟩
    · exact absurd allowed fault_ne_valid
  · intro conditions
    rcases conditions with ⟨found, broken⟩
    exact ⟨data, found, by rw [broken]⟩

theorem within_eq_valid_iff {levels room : Nat} {read : Nat → Checked Data} {data : Data} :
    within levels room read = .valid data ↔ levels ≤ room ∧ read (room - levels) = .valid data := by
  unfold within
  split <;> rename_i shortage
  · simp [Nat.not_le.mpr shortage]
  · simp [Nat.not_lt.mp shortage]

theorem itemsFrom_eq_valid_iff {position : Nat} {checks : List (Checked Data)}
    {items : List Data} :
    itemsFrom position checks = .valid items ↔ checks = items.map .valid := by
  induction checks generalizing position items with
  | nil =>
    constructor
    · rintro ⟨⟩
      rfl
    · intro none
      rw [List.map_eq_nil_iff.mp none.symm]
      rfl
  | cons check checks inductionHypothesis =>
    simp only [itemsFrom, seq_eq_valid_iff, fmap_eq_valid_iff, inside_eq_valid_iff,
      inductionHypothesis]
    constructor
    · rintro ⟨_, rest, ⟨item, rfl, rfl⟩, rfl, rfl⟩
      rfl
    · intro same
      obtain ⟨item, rest, rfl, rfl, rfl⟩ := List.map_eq_cons_iff.mp same.symm
      exact ⟨_, rest, ⟨item, rfl, rfl⟩, rfl, rfl⟩

theorem items_eq_valid_iff {checks : List (Checked Data)} {items : List Data} :
    Checked.items checks = .valid items ↔ checks = items.map .valid :=
  itemsFrom_eq_valid_iff

/-- Data that come back one by one come back together. -/
theorem items_of_valid {back : Data → Checked Data} {items : List Data}
    (each : ∀ item ∈ items, back item = .valid item) :
    Checked.items (items.map back) = .valid items :=
  items_eq_valid_iff.mpr (List.map_congr_left each)

theorem entries_of_valid (back : Data → Checked Data)
    {entries : List (String × Data)} (each : ∀ entry ∈ entries, back entry.2 = .valid entry.2) :
    Checked.entries (entries.map fun (key, data) => (key, back data)) = .valid entries := by
  induction entries with
  | nil => rfl
  | cons entry entries inductionHypothesis =>
    obtain ⟨key, data⟩ := entry
    have first : back data = .valid data := each (key, data) (by simp)
    have others := inductionHypothesis fun other member => each other (by simp [member])
    rw [List.map_cons]
    dsimp only
    rw [Checked.entries, first, others]
    rfl

/-- Every item has been read from its place in the list. -/
theorem exists_of_mem_items {Source : Type} {read : Source → Checked Data} {sources : List Source}
    {items : List Data} (found : Checked.items (sources.map read) = .valid items) {item : Data}
    (member : item ∈ items) : ∃ source ∈ sources, read source = .valid item := by
  have listed : Checked.valid item ∈ sources.map read := by
    rw [items_eq_valid_iff.mp found]
    exact List.mem_map_of_mem member
  exact List.mem_map.mp listed

end Checked

namespace Reader

open Checked

variable {Data Part Scope : Type}

theorem closed_eq_valid_iff {keys : List String} {table : Table} {checked : Checked Data}
    {data : Data} :
    closed keys table checked = .valid data ↔
      (∀ entry ∈ table, Text.isEncodable entry.1 = true) ∧ checked = .valid data ∧
        unknownKeys keys table = [] := by
  unfold closed
  split <;> rename_i encodable
  · rw [withProblems_eq_valid_iff, and_iff_right (List.all_eq_true.mp encodable)]
  · constructor
    · intro read
      exact absurd read fault_ne_valid
    · intro conditions
      exact absurd (List.all_eq_true.mpr conditions.1) encodable

theorem closedModel_eq_valid_iff {name : String} {keys : List String}
    {read : Table → Checked Data} {value : Value} {data : Data} :
    closedModel name keys read value = .valid data ↔
      ∃ table, value = .table table ∧ closed keys table (read table) = .valid data := by
  cases value <;> simp [closedModel, model]

theorem owned_eq_valid_iff {reader : Nat → Reader Data} {room : Nat} {value : Value} {data : Data} :
    owned reader room value = .valid data ↔ 1 ≤ room ∧ reader (room - 1) value = .valid data :=
  within_eq_valid_iff

theorem list_eq_valid_iff {item : Reader Data} {value : Value} {items : List Data} :
    list item value = .valid items ↔
      ∃ values, value = .list values ∧ Checked.items (values.map item) = .valid items := by
  cases value <;> simp [list]

/-- Items come back from the list of their forms. -/
theorem list_of_valid {item : Reader Data} {write : Data → Value} {items : List Data}
    (each : ∀ data ∈ items, item (write data) = .valid data) :
    list item (.list (items.map write)) = .valid items := by
  rw [list, List.map_map]
  exact items_of_valid each

theorem nullable_of_ne_null {reader : Reader Data} {value : Value} (present : value ≠ .null) :
    nullable reader value = (reader value).map some := by
  cases value <;> first | rfl | exact absurd rfl present

theorem nullable_eq_valid_iff {reader : Reader Data} {value : Value} {data : Option Data} :
    nullable reader value = .valid data ↔
      (value = .null ∧ data = none) ∨
        value ≠ .null ∧ ∃ found, reader value = .valid found ∧ data = some found := by
  by_cases present : value = .null
  · subst present
    simp [nullable, eq_comm]
  · simp [nullable_of_ne_null present, map_eq_valid_iff, present, eq_comm]

theorem required_eq_valid_iff {key : String} {reader : Reader Data} {table : Table} {data : Data} :
    required key reader table = .valid data ↔
      ∃ value, table.lookup key = some value ∧ reader value = .valid data := by
  rw [required, inside_eq_valid_iff]
  cases table.lookup key <;> simp

theorem required_of_lookup {key : String} {reader : Reader Data} {table : Table} {value : Value}
    {data : Data} (found : table.lookup key = some value) (read : reader value = .valid data) :
    required key reader table = .valid data :=
  required_eq_valid_iff.mpr ⟨value, found, read⟩

theorem requiredPart_of_lookup {key : String} {scope : Scope} {part : Reading Data → Checked Part}
    {entries : Readings Scope Data} {value : Value} {reading : Scope → Reading Data} {data : Part}
    (found : entries.lookup key = some (value, reading))
    (read : part (reading scope) = .valid data) :
    requiredPart key scope part entries = .valid data := by
  rw [requiredPart, found, inside_eq_valid_iff]
  exact read

theorem defaulting_eq_valid_iff {key : String} {default : Data} {reader : Reader Data}
    {table : Table} {data : Data} :
    defaulting key default reader table = .valid data ↔
      (table.lookup key = none ∧ data = default) ∨
        ∃ value, table.lookup key = some value ∧ reader value = .valid data := by
  rw [defaulting, inside_eq_valid_iff]
  cases table.lookup key <;> simp [eq_comm]

theorem defaulting_of_lookup {key : String} {default : Data} {reader : Reader Data}
    {table : Table} {value : Value} {data : Data} (found : table.lookup key = some value)
    (read : reader value = .valid data) : defaulting key default reader table = .valid data :=
  defaulting_eq_valid_iff.mpr (.inr ⟨value, found, read⟩)

theorem optional_eq_valid_iff {key : String} {reader : Reader Data} {table : Table}
    {data : Option Data} :
    optional key reader table = .valid data ↔
      ((table.lookup key = none ∨ table.lookup key = some .null) ∧ data = none) ∨
        ∃ value found, table.lookup key = some value ∧ value ≠ .null ∧
          reader value = .valid found ∧ data = some found := by
  rw [optional, defaulting_eq_valid_iff]
  simp only [nullable_eq_valid_iff]
  grind

theorem defaultingPart_eq_valid_iff {key : String} {scope : Scope} {default : Part}
    {part : Reading Data → Checked Part} {entries : Readings Scope Data} {data : Part} :
    defaultingPart key scope default part entries = .valid data ↔
      (entries.lookup key = none ∧ data = default) ∨
        ∃ entry, entries.lookup key = some entry ∧ part (entry.2 scope) = .valid data := by
  rw [defaultingPart, inside_eq_valid_iff]
  cases entries.lookup key <;> simp [eq_comm]

theorem defaultingPart_of_lookup {key : String} {scope : Scope} {default : Part}
    {part : Reading Data → Checked Part} {entries : Readings Scope Data} {value : Value}
    {reading : Scope → Reading Data} {data : Part}
    (found : entries.lookup key = some (value, reading))
    (read : part (reading scope) = .valid data) :
    defaultingPart key scope default part entries = .valid data :=
  defaultingPart_eq_valid_iff.mpr (.inr ⟨_, found, read⟩)

theorem optionalPart_eq {key : String} {scope : Scope} {entries : Readings Scope Data}
    {value : Value} {reading : Scope → Reading Data}
    (found : entries.lookup key = some (value, reading)) :
    optionalPart key scope entries =
      (nullable (fun _ => (reading scope).alone) value).inside (.key key) := by
  rw [optionalPart, found]
  cases value <;> rfl

theorem optionalPart_eq_valid_iff {key : String} {scope : Scope} {entries : Readings Scope Data}
    {data : Option Data} :
    optionalPart key scope entries = .valid data ↔
      (entries.lookup key = none ∧ data = none) ∨
        ∃ entry, entries.lookup key = some entry ∧
          nullable (fun _ => (entry.2 scope).alone) entry.1 = .valid data := by
  rcases found : entries.lookup key with _ | ⟨value, reading⟩
  · rw [optionalPart, found, inside_eq_valid_iff]
    simp [eq_comm]
  · rw [optionalPart_eq found, inside_eq_valid_iff]
    simp

theorem mem_of_lookup {Result : Type} {entries : List (String × Result)} {key : String}
    {result : Result} (found : entries.lookup key = some result) : (key, result) ∈ entries := by
  obtain ⟨before, after, rfl, _⟩ := List.lookup_eq_some_iff.mp found
  simp

theorem exists_of_optional {key : String} {reader : Reader Data} {table : Table} {data : Data}
    (read : optional key reader table = .valid (some data)) :
    ∃ value, reader value = .valid data := by
  rcases optional_eq_valid_iff.mp read with ⟨_, absent⟩ | ⟨value, found, _, _, valid, same⟩
  · cases absent
  · cases same
    exact ⟨value, valid⟩

theorem exists_of_optionalPart {key : String} {scope : Scope} {entries : Readings Scope Data}
    {data : Data} (read : optionalPart key scope entries = .valid (some data)) :
    ∃ entry ∈ entries, (entry.2.2 scope).alone = .valid data := by
  rcases optionalPart_eq_valid_iff.mp read with ⟨_, absent⟩ | ⟨entry, found, nullable⟩
  · cases absent
  · rcases nullable_eq_valid_iff.mp nullable with ⟨_, absent⟩ | ⟨_, part, valid, same⟩
    · cases absent
    · cases same
      exact ⟨(key, entry), mem_of_lookup found, valid⟩

theorem exists_of_defaultingPart {key : String} {scope : Scope} {default : Part}
    {part : Reading Data → Checked Part} {entries : Readings Scope Data} {data : Part}
    (read : defaultingPart key scope default part entries = .valid data) :
    data = default ∨ ∃ entry ∈ entries, part (entry.2.2 scope) = .valid data := by
  rcases defaultingPart_eq_valid_iff.mp read with ⟨_, absent⟩ | ⟨entry, found, valid⟩
  · exact .inl absent
  · exact .inr ⟨(key, entry), mem_of_lookup found, valid⟩

theorem exists_of_defaulting {key : String} {default : Data} {reader : Reader Data} {table : Table}
    {data : Data} (read : defaulting key default reader table = .valid data) :
    data = default ∨ ∃ value, reader value = .valid data := by
  rcases defaulting_eq_valid_iff.mp read with ⟨_, absent⟩ | ⟨value, _, valid⟩
  · exact .inl absent
  · exact .inr ⟨value, valid⟩

/-- A table with exactly the known keys is closed. -/
theorem closed_of_keys {keys : List String} {table : Table} {checked : Checked Data} {data : Data}
    (known : table.map Prod.fst = keys) (encodable : ∀ key ∈ keys, Text.isEncodable key = true)
    (read : checked = .valid data) : closed keys table checked = .valid data := by
  subst known
  refine closed_eq_valid_iff.mpr ⟨?_, read, ?_⟩
  · intro entry member
    exact encodable entry.1 (List.mem_map_of_mem member)
  · rw [unknownKeys, List.map_eq_nil_iff, List.filter_eq_nil_iff]
    intro entry member
    simpa using ⟨entry.2, member⟩

theorem closedModel_of_keys {name : String} {keys : List String} {read : Table → Checked Data}
    {table : Table} {data : Data} (known : table.map Prod.fst = keys)
    (encodable : ∀ key ∈ keys, Text.isEncodable key = true) (valid : read table = .valid data) :
    closedModel name keys read (.table table) = .valid data :=
  closed_of_keys known encodable valid

theorem table_map (entries : Table) (reading : Value → Scope → Reading Data) :
    Readings.table (entries.map fun (key, value) => (key, value, reading value)) = entries := by
  rw [Readings.table, List.map_map]
  exact List.map_id' entries

/-- What is read alone has a property, and so has every item of what is read as a list. -/
structure Reading.Yields (reading : Reading Data) (property : Data → Prop) : Prop where
  alone : ∀ data, reading.alone = .valid data → property data
  many : ∀ items, reading.many = .valid items → ∀ item ∈ items, property item

end Reader

namespace Value

variable {Result : Type} {step : Layer Result → Result} {motive : Result → Prop}

mutual

/-- What every layer takes over from the layers inside it holds of the results of all values. -/
theorem fold_induction (scalar : ∀ value, motive (step (.scalar value)))
    (list : ∀ items, (∀ item ∈ items, motive item.2) → motive (step (.list items)))
    (table : ∀ entries, (∀ entry ∈ entries, motive entry.2.2) → motive (step (.table entries))) :
    ∀ value, motive (fold step value)
  | .list items => list _ (foldItems_induction scalar list table items)
  | .table entries => table _ (foldEntries_induction scalar list table entries)
  | .null => scalar .null
  | .bool value => scalar (.bool value)
  | .integer value => scalar (.integer value)
  | .float value => scalar (.float value)
  | .string text => scalar (.string text)
  | .moment point => scalar (.moment point)

theorem foldItems_induction (scalar : ∀ value, motive (step (.scalar value)))
    (list : ∀ items, (∀ item ∈ items, motive item.2) → motive (step (.list items)))
    (table : ∀ entries, (∀ entry ∈ entries, motive entry.2.2) → motive (step (.table entries))) :
    ∀ items, ∀ item ∈ foldItems step items, motive item.2
  | [] => by simp [foldItems]
  | first :: rest => by
    rw [foldItems, List.forall_mem_cons]
    exact ⟨fold_induction scalar list table first, foldItems_induction scalar list table rest⟩

theorem foldEntries_induction (scalar : ∀ value, motive (step (.scalar value)))
    (list : ∀ items, (∀ item ∈ items, motive item.2) → motive (step (.list items)))
    (table : ∀ entries, (∀ entry ∈ entries, motive entry.2.2) → motive (step (.table entries))) :
    ∀ entries, ∀ entry ∈ foldEntries step entries, motive entry.2.2
  | [] => by simp [foldEntries]
  | (key, value) :: rest => by
    rw [foldEntries, List.forall_mem_cons]
    exact ⟨fold_induction scalar list table value, foldEntries_induction scalar list table rest⟩

end

end Value

namespace Reader

open Checked

variable {Data Scope : Type} {noList : Fault}
  {read : Scope → Option (Readings Scope Data) → Checked Data}

theorem recursive_table_alone (entries : Table) (scope : Scope) :
    (recursive noList read (.table entries) scope).alone =
      read scope (some (entries.map fun (key, value) =>
        (key, value, recursive noList read value))) := by
  simp only [recursive, Value.fold, Value.foldEntries_eq_map]

theorem recursive_many_of_valid {write : Data → Value} {items : List Data} {scope : Scope}
    (each : ∀ data ∈ items, (recursive noList read (write data) scope).alone = .valid data) :
    (recursive noList read (.list (items.map write)) scope).many = .valid items := by
  simp only [recursive, Value.fold, Value.foldItems_eq_map, List.map_map]
  exact items_of_valid each

/-- A property of data that data read at a table take over from the data read in it. -/
theorem recursive_yields {property : Data → Prop}
    (step : ∀ scope entries? data,
      (∀ entries ∈ entries?, ∀ entry ∈ entries, ∀ inner, (entry.2.2 inner).Yields property) →
      read scope entries? = .valid data → property data)
    (value : Value) (scope : Scope) : (recursive noList read value scope).Yields property := by
  -- A part of a table is read in a scope of its own, so the induction is for all scopes at once.
  revert scope
  refine Value.fold_induction (motive := fun reading : Scope → Reading Data =>
    ∀ scope, (reading scope).Yields property) ?_ ?_ ?_ value
  · intro value scope
    exact ⟨fun data => step scope none data (by simp), by simp⟩
  · intro items inductionHypothesis scope
    refine ⟨fun data => step scope none data (by simp), ?_⟩
    intro found listed item member
    obtain ⟨source, inside, alone⟩ := exists_of_mem_items listed member
    exact (inductionHypothesis source inside scope).alone item alone
  · intro entries inductionHypothesis scope
    refine ⟨fun data => step scope (some entries) data ?_, by simp⟩
    rintro _ ⟨⟩
    exact inductionHypothesis

end Reader

/-- The integers that are levels. -/
theorem levelOfInt_eq_valid_iff {value : Int} {level : Level} :
    levelOfInt value = .valid level ↔ value = level.toNat := by
  have bound : level.toNat ≤ greatestLevel := Nat.le_of_lt_succ level.toNat_lt
  unfold levelOfInt
  split <;> rename_i least
  · constructor
    · intro read
      exact absurd read Checked.fault_ne_valid
    · intro same
      omega
  split <;> rename_i greatest
  · constructor
    · intro read
      exact absurd read Checked.fault_ne_valid
    · intro same
      omega
  constructor
  · intro read
    cases read
    have small : value.toNat < UInt32.size := by
      simp only [greatestLevel, UInt32.size] at greatest ⊢
      omega
    rw [UInt32.toNat_ofNat_of_lt' small]
    omega
  · intro same
    rw [same, Int.toNat_natCast, UInt32.ofNat_toNat]

end SchemaGrammar
