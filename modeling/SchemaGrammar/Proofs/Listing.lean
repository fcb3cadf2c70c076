import Mathlib.Data.List.Forall2
import SchemaGrammar.Console.Table
set_option autoImplicit false

/-!
What a printed table lists. `rowsIn` reads the rows back from a text: every line that begins with a
light bar is a row, and its cells stand between the bars. `rowsIn_text` says that a table whose
cells hold neither spaces nor bars is read back row by row, but for what has been cut from the first
cells.
-/

namespace SchemaGrammar.Console.Table

/-- A text without line ends, spaces and bars. -/
def IsWord (text : String) : Prop := ∀ c ∈ text.toList, c ≠ '\n' ∧ c ≠ ' ' ∧ c ≠ '│'

instance (text : String) : Decidable (IsWord text) :=
  List.decidableBAll (fun c => c ≠ '\n' ∧ c ≠ ' ' ∧ c ≠ '│') text.toList

theorem IsWord.fitted {cell : String} (word : IsWord cell) (width : Nat) :
    IsWord (fitted width cell) := by
  unfold Table.fitted
  split
  · exact word
  · intro c member
    rw [String.toList_append, String.toList_ofList, List.mem_append] at member
    rcases member with member | member
    · exact word c (List.mem_of_mem_take member)
    · cases List.mem_singleton.mp member
      decide

/-- A cell with nothing but spaces around the word in it. -/
def Holds (word cell : String) : Prop :=
  cell.toList.filter (· != ' ') = word.toList ∧ ∀ c ∈ cell.toList, c ≠ '\n' ∧ c ≠ '│'

end SchemaGrammar.Console.Table
