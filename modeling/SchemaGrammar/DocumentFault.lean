set_option autoImplicit false

/-!
What can be wrong with the text of a document, whatever its format, before anybody looks at the
values in it. The first such fault in the order of the text counts.
-/

namespace SchemaGrammar

inductive DocumentFault where
  /-- The text does not follow the rules of its format. -/
  | malformed
  /-- An integer has more digits than are read. -/
  | longInteger
  /-- Lists and tables lie too deep in each other. -/
  | tooDeep
  deriving DecidableEq

namespace DocumentFault

/-- A part of a text that is there, or a text that is malformed. -/
def expect {Data : Type} : Option Data → Except DocumentFault Data
  | some data => .ok data
  | none => .error .malformed

theorem expect_eq_ok_iff {Data : Type} {part : Option Data} {data : Data} :
    expect part = .ok data ↔ part = some data := by
  cases part <;> simp [expect]

end DocumentFault

end SchemaGrammar
