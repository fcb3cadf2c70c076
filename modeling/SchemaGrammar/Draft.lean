import SchemaGrammar.Emission
set_option autoImplicit false

/-!
The rules of one grammar while it is compiled. The start rule is reserved as the first one and
filled in last; every other rule is added once and stays as it is. `names_add` says that adding an
entry puts its name at the end.
-/

namespace SchemaGrammar

structure Draft where
  grammar : String
  start : Option Rule
  entries : List Entry

namespace Draft

/-- A draft that has nothing but the place for its start rule. -/
def new (grammar : String) : Draft := ⟨grammar, none, []⟩

/-- The names of all rules, the start rule's first. -/
def names (draft : Draft) : List String := startRule :: draft.entries.map Entry.name

def contains (draft : Draft) (name : String) : Bool := draft.names.contains name

/-- The entry with a name. -/
def entry? (draft : Draft) (name : String) : Option Entry :=
  draft.entries.find? fun entry => entry.name == name

def get? (draft : Draft) (name : String) : Option Rule :=
  if name = startRule then draft.start else (draft.entry? name).map Entry.rule

/-- Adds a rule whose name is new. -/
def add (entry : Entry) (draft : Draft) : Except SchemaError Draft :=
  if draft.contains entry.name then
    let owner := (draft.entry? entry.name).map Entry.source
    .error (.atRule entry.source none (.duplicateRule entry.name draft.grammar owner))
  else .ok { draft with entries := draft.entries ++ [entry] }

theorem names_add {entry : Entry} {draft next : Draft} (h : draft.add entry = .ok next) :
    next.names = draft.names ++ [entry.name] := by
  unfold add at h
  split at h
  · simp at h
  · cases h
    simp [names]

/-- Adds rules up to the first one whose name is taken. -/
def addAll : List Entry → Draft → Draft × Except SchemaError Unit
  | [], draft => (draft, .ok ())
  | entry :: rest, draft =>
    match draft.add entry with
    | .ok draft => addAll rest draft
    | .error error => (draft, .error error)

/-- Takes the entries of an emission. A name that is taken comes before the emission's own error,
for that error arose after all entries. -/
def absorb {Error Data : Type} (lift : SchemaError → Error) (emission : Emission Error Data)
    (draft : Draft) : Draft × Except Error Data :=
  match draft.addAll emission.entries with
  | (draft, .ok ()) => (draft, emission.result)
  | (draft, .error error) => (draft, .error (lift error))

/-- Fills in the start rule with the rule of the root. -/
def fillStart (root : String) (draft : Draft) : Except SchemaError Draft :=
  match draft.get? root with
  | some rule => .ok { draft with start := some rule }
  | none => .error (.atRule root none (.rootWithoutRule root))

/-- The rules in order, once the start rule is there. -/
def finish (draft : Draft) : Except SchemaError (List (String × Rule)) :=
  match draft.start with
  | some rule =>
    .ok ((startRule, rule) :: draft.entries.map fun entry => (entry.name, entry.rule))
  | none => .error (.atRule startRule none (.noStartRule draft.grammar))

end Draft

end SchemaGrammar
