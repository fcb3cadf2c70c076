import SchemaGrammar.Rule
import SchemaGrammar.SchemaError
set_option autoImplicit false

/-!
The rules that compiling emits. An emission is the list of entries in the order in which they are
made, and either the data it was made for or an error. The entries made before an error remain.
What is emitted never depends on the draft that takes the entries.
-/

namespace SchemaGrammar

/-- A named rule and the record, variant or union that it was made for. -/
structure Entry where
  name : String
  rule : Rule
  source : String
  deriving DecidableEq

structure Emission (Error Data : Type) where
  entries : List Entry
  result : Except Error Data

namespace Emission

variable {Error Other Data Next : Type}

def bind (first : Emission Error Data) (next : Data → Emission Error Next) :
    Emission Error Next :=
  match first.result with
  | .error error => ⟨first.entries, .error error⟩
  | .ok data => ⟨first.entries ++ (next data).entries, (next data).result⟩

instance : Monad (Emission Error) where
  pure data := ⟨[], .ok data⟩
  bind := bind

@[simp] theorem entries_pure (data : Data) : (pure data : Emission Error Data).entries = [] := rfl

@[simp] theorem result_pure (data : Data) :
    (pure data : Emission Error Data).result = .ok data := rfl

theorem bind_of_ok {first : Emission Error Data} {data : Data} (h : first.result = .ok data)
    (next : Data → Emission Error Next) :
    first >>= next = ⟨first.entries ++ (next data).entries, (next data).result⟩ := by
  show bind first next = _
  simp [bind, h]

theorem bind_of_error {first : Emission Error Data} {error : Error}
    (h : first.result = .error error) (next : Data → Emission Error Next) :
    first >>= next = ⟨first.entries, .error error⟩ := by
  show bind first next = _
  simp [bind, h]

/-- Emits one entry. -/
def emit (entry : Entry) : Emission Error Unit := ⟨[entry], .ok ()⟩

/-- A result without entries. -/
def ofResult (result : Except Error Data) : Emission Error Data := ⟨[], result⟩

/-- A result whose fault lies at a rule, and at one of its fields. -/
def located (rule : String) (field : Option String) (result : Except SchemaFault Data) :
    Emission SchemaError Data :=
  ofResult (result.mapError (SchemaError.atRule rule field))

def mapError (convert : Error → Other) (emission : Emission Error Data) : Emission Other Data :=
  ⟨emission.entries, emission.result.mapError convert⟩

end Emission

end SchemaGrammar
