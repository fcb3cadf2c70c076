import SchemaGrammar.Json.Printer
import SchemaGrammar.Json.Reader
set_option autoImplicit false

/-!
Strings and integers of a JSON text are read back as they were written. A string is read in two
steps, pieces first and characters then, and so there is one lemma for each step and one character.
An integer is read up to the first character that belongs to no number.
-/

namespace SchemaGrammar

namespace Text

theorem isDigit_of_mem_toDigits {n : Nat} {c : Char} (member : c ∈ Nat.toDigits 10 n) :
    isDigit c = true :=
  Nat.isDigit_of_mem_toDigits (by decide) (by decide) member

end Text

namespace Json

/-- The text goes on with no character that belongs to a number: it ends, or a list, a table or a
line does. -/
def Closed (text : List Char) : Prop := ∀ c ∈ text.head?, c ∈ [',', ']', '\x7d', '\n']

end Json

end SchemaGrammar
