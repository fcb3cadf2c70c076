import SchemaGrammar.Binary64.Shortest
import SchemaGrammar.Json.Quoted
import SchemaGrammar.Value
set_option autoImplicit false

/-!
Writing a JSON text. Without an indentation the text is one line, with a space after each comma and
colon. With an indentation every item and entry has a line of its own, set in by that many spaces
for each level; a negative indentation counts as zero. Empty lists and tables are written without a
break in either case.
-/

namespace SchemaGrammar.Json

/-- The line break before an item at a level. -/
def lineBreak (indent : Option Int) (level : Nat) : List Char :=
  match indent with
  | none => []
  | some width => '\n' :: List.replicate (width.toNat * level) ' '

/-- What stands between two items at a level. -/
def separator (indent : Option Int) (level : Nat) : List Char :=
  match indent with
  | none => [',', ' ']
  | some _ => ',' :: lineBreak indent level

def writeKey (key : String) : List Char := writeString key ++ [':', ' ']

mutual

/-- The text of a value that stands at a level. A moment has no form of its own and is written as
the string of its text. -/
def write (indent : Option Int) (level : Nat) : Value → List Char
  | .null => ['n', 'u', 'l', 'l']
  | .bool true => ['t', 'r', 'u', 'e']
  | .bool false => ['f', 'a', 'l', 's', 'e']
  | .integer value => (toString value).toList
  | .float value => (Binary64.json.write value).toList
  | .string text => writeString text
  | .moment point => writeString point.text
  | .list [] => ['[', ']']
  | .list (item :: rest) =>
    '[' :: lineBreak indent (level + 1) ++ write indent (level + 1) item ++
      writeItems indent (level + 1) rest ++ lineBreak indent level ++ [']']
  | .table [] => ['\x7b', '\x7d']
  | .table ((key, value) :: rest) =>
    '\x7b' :: lineBreak indent (level + 1) ++ writeKey key ++ write indent (level + 1) value ++
      writeEntries indent (level + 1) rest ++ lineBreak indent level ++ ['\x7d']

/-- The items after the first one. -/
def writeItems (indent : Option Int) (level : Nat) : List Value → List Char
  | [] => []
  | item :: rest =>
    separator indent level ++ write indent level item ++ writeItems indent level rest

/-- The entries after the first one. -/
def writeEntries (indent : Option Int) (level : Nat) : List (String × Value) → List Char
  | [] => []
  | (key, value) :: rest =>
    separator indent level ++ writeKey key ++ write indent level value ++
      writeEntries indent level rest

end

/-- The JSON text of a value. -/
def render (indent : Option Int) (value : Value) : String :=
  String.ofList (write indent 0 value)

end SchemaGrammar.Json
