import SchemaGrammar.Binary64.Shortest
import SchemaGrammar.Text.Numeral
import SchemaGrammar.Value
set_option autoImplicit false

/-!
How a message shows a value. A string alone is shown as it is; inside a list or a table it is
quoted, and a moment is written out with its parts. An integer that is too long is not written out,
and neither is a list or a table that holds one.
-/

namespace SchemaGrammar.Value

mutual

/-- The form of a value inside another one. -/
def literal : Value → String
  | .null => "None"
  | .bool true => "True"
  | .bool false => "False"
  | .integer value => toString value
  | .float value => Binary64.plain.write value
  | .string text => Text.quoted text
  | .moment point => point.literal
  | .list items => "[" ++ ", ".intercalate (literals items) ++ "]"
  | .table entries => "\x7b" ++ ", ".intercalate (entryLiterals entries) ++ "\x7d"

def literals : List Value → List String
  | [] => []
  | item :: rest => literal item :: literals rest

def entryLiterals : List (String × Value) → List String
  | [] => []
  | (key, value) :: rest => (Text.quoted key ++ ": " ++ literal value) :: entryLiterals rest

end

/-- The text of a value that stands alone. -/
def text : Value → String
  | .string text => text
  | .moment point => point.text
  | value => value.literal

/-- Whether no integer in a value is too long to be written out. -/
def isPrintable : Value → Bool :=
  fold fun
    | .scalar (.integer value) => value.natAbs < Nat.pow 10 Text.longestNumeral
    | .scalar _ => true
    | .list items => items.all fun (_, printable) => printable
    | .table entries => entries.all fun (_, _, printable) => printable

/-- The text of a value, or a word on its kind if it is not written out. -/
def label (value : Value) : String :=
  if value.isPrintable then value.text
  else
    match value with
    | .list _ => "<unprintable list object>"
    | .table _ => "<unprintable dict object>"
    | _ => "<unprintable int object>"

end SchemaGrammar.Value
