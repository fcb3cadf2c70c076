import SchemaGrammar.Problem
import SchemaGrammar.Text.Integer
import SchemaGrammar.Text.Surrogate
import SchemaGrammar.Value.Text
set_option autoImplicit false

/-!
Reading typed data from values. A reader either yields its data or every problem it found, in the
order in which the parts are looked at: the known keys in the order of the declaration, then the
unknown keys in the order of the document. A rule between the parts is checked only once all of
them are in order. Data of some kinds may be nested in each other; there is room for a limited
number of levels, of which `within` takes up some.
-/

namespace SchemaGrammar

/-- Data that were read, or the problems that prevented it. -/
inductive Checked (Data : Type) where
  | valid (data : Data)
  | invalid (problems : List Problem)

namespace Checked

variable {Data Other : Type}

def fault (fault : Fault) : Checked Data := .invalid [⟨[], fault⟩]

def map (convert : Data → Other) : Checked Data → Checked Other
  | .valid data => .valid (convert data)
  | .invalid problems => .invalid problems

/-- Both parts, or the problems of both. -/
def apply (first : Checked (Data → Other)) (second : Checked Data) : Checked Other :=
  match first, second with
  | .valid convert, .valid data => .valid (convert data)
  | .valid _, .invalid problems => .invalid problems
  | .invalid problems, .valid _ => .invalid problems
  | .invalid problems, .invalid more => .invalid (problems ++ more)

instance : Applicative Checked where
  pure := .valid
  map := map
  seq first second := apply first (second ())

/-- The problems lie one step further inside. -/
def inside (step : Step) : Checked Data → Checked Data
  | .valid data => .valid data
  | .invalid problems => .invalid (problems.map (Problem.inside step))

/-- Adds problems that do not concern the data themselves. -/
def withProblems (problems : List Problem) : Checked Data → Checked Data
  | .valid data => if problems.isEmpty then .valid data else .invalid problems
  | .invalid earlier => .invalid (earlier ++ problems)

/-- A further check of data that are in order by themselves. -/
def andThen (check : Data → Checked Other) : Checked Data → Checked Other
  | .valid data => check data
  | .invalid problems => .invalid problems

/-- Keeps the data when they break no rule. -/
def obeying (violation? : Data → Option Violation) : Checked Data → Checked Data :=
  andThen fun data =>
    match violation? data with
    | none => .valid data
    | some violation => fault (.violation violation)

/-- Data that take up a number of the levels for which there is room. -/
def within (levels room : Nat) (read : Nat → Checked Data) : Checked Data :=
  if room < levels then fault .tooDeep else read (room - levels)

/-- Every item, or the problems of all of them, each at its position. -/
def itemsFrom (position : Nat) : List (Checked Data) → Checked (List Data)
  | [] => .valid []
  | item :: rest =>
    List.cons <$> inside (.index position) item <*> itemsFrom (position + 1) rest

def items : List (Checked Data) → Checked (List Data) := itemsFrom 0

/-- Every entry, or the problems of all of them, each at its key. -/
def entries : List (String × Checked Data) → Checked (List (String × Data))
  | [] => .valid []
  | (key, value) :: rest =>
    (fun data more => (key, data) :: more) <$> inside (.key key) value <*> entries rest

end Checked

/-- The number of levels of data that may lie in each other. -/
def deepestLevel : Nat := 255

/-- A way to read data from a value. -/
abbrev Reader (Data : Type) := Value → Checked Data

namespace Reader

def string : Reader String
  | .string text => .valid text
  | _ => .fault .notString

/-- A truth value and nothing else. -/
def boolean : Reader Bool
  | .bool value => .valid value
  | _ => .fault .notBoolean

/-- The words that stand for a truth value, in any case of their letters. -/
def booleanOfWord? (word : String) : Option Bool :=
  let letters := word.toList.map Char.toLower
  if ["0", "off", "f", "false", "n", "no"].any (·.toList == letters) then some false
  else if ["1", "on", "t", "true", "y", "yes"].any (·.toList == letters) then some true
  else none

/-- The integers of 64 bits. -/
def isMachineInteger (value : Int) : Bool :=
  -(Nat.pow 2 63 : Nat) ≤ value && value < (Nat.pow 2 63 : Nat)

/-- The whole numbers that a floating-point number may stand for: those of 64 bits on both sides of
zero. -/
def isSmallWhole (value : Int) : Bool := value.natAbs < Nat.pow 2 63

/-- A whole number that stands for a truth value. -/
def booleanOfInteger (value : Int) : Checked Bool :=
  if value = 0 then .valid false
  else if value = 1 then .valid true
  else if isMachineInteger value then .fault .unreadableBoolean
  else .fault .notBoolean

/-- A truth value, or a number or a word that stands for one. -/
def looseBoolean : Reader Bool
  | .bool value => .valid value
  | .integer value => booleanOfInteger value
  | .float value =>
    match value.toInt? with
    | some value => if isSmallWhole value then booleanOfInteger value else .fault .notBoolean
    | none => .fault .notBoolean
  | .string text =>
    match booleanOfWord? text with
    | some value => .valid value
    | none => .fault .unreadableBoolean
  | _ => .fault .notBoolean

/-- An integer and nothing else. -/
def integer : Reader Int
  | .integer value => .valid value
  | _ => .fault .notInteger

/-- An integer, or a truth value, a whole number or a text that stands for one. -/
def looseInteger : Reader Int
  | .integer value => .valid value
  | .bool value => .valid (if value then 1 else 0)
  | .float value =>
    match value.toInt?, value with
    | some value, _ => if isSmallWhole value then .valid value else .fault .longInteger
    | none, .finite _ _ _ => .fault .fractional
    | none, _ => .fault .notFinite
  | .string text =>
    match Text.readInteger text with
    | .ok value => .valid value
    | .error .malformed => .fault .unreadableInteger
    | .error .tooLong => .fault .longInteger
  | _ => .fault .notInteger

/-- One given string. -/
def literal (expected : String) : Reader Unit
  | .string text => if text = expected then .valid () else .fault (.notLiteral expected)
  | _ => .fault (.notLiteral expected)

def list {Data : Type} (item : Reader Data) : Reader (List Data)
  | .list items => Checked.items (items.map item)
  | _ => .fault .notList

/-- `null` reads as nothing. -/
def nullable {Data : Type} (reader : Reader Data) : Reader (Option Data)
  | .null => .valid none
  | value => (reader value).map some

/-- The value under a key that must be there. -/
def required {Data : Type} (key : String) (reader : Reader Data) (table : Table) : Checked Data :=
  Checked.inside (.key key) <|
    match table.lookup key with
    | some value => reader value
    | none => .fault .missing

/-- The value under a key, or a default when the key is not there. -/
def defaulting {Data : Type} (key : String) (default : Data) (reader : Reader Data)
    (table : Table) : Checked Data :=
  Checked.inside (.key key) <|
    match table.lookup key with
    | some value => reader value
    | none => .valid default

/-- The value under a key that may be missing or `null`. -/
def optional {Data : Type} (key : String) (reader : Reader Data) (table : Table) :
    Checked (Option Data) :=
  defaulting key none (nullable reader) table

/-- Data that belong to data of another kind take up a level more than they do by themselves. -/
def owned {Data : Type} (reader : Nat → Reader Data) (room : Nat) : Reader Data := fun value =>
  Checked.within 1 room fun room => reader room value

/-- One problem for each key that is not known. -/
def unknownKeys (known : List String) (table : Table) : List Problem :=
  (table.filter fun (key, _) => !known.contains key).map fun (key, _) =>
    ⟨[.key key], .unknownKey⟩

/-- Data with fixed keys. -/
def model {Data : Type} (name : String) (read : Table → Checked Data) : Reader Data
  | .table entries => read entries
  | _ => .fault (.notModel name)

/-- The data of a table that holds no keys but the known ones. A key that is no Unicode text hides
every other problem. -/
def closed {Data : Type} (keys : List String) (table : Table) (data : Checked Data) :
    Checked Data :=
  if table.all fun (key, _) => Text.isEncodable key then
    data.withProblems (unknownKeys keys table)
  else .fault .notUnicode

/-- Data with fixed keys, no others being allowed. -/
def closedModel {Data : Type} (name : String) (keys : List String) (read : Table → Checked Data) :
    Reader Data :=
  model name fun table => closed keys table (read table)

/-- A value read as data, and read as a list of such data. -/
structure Reading (Data : Type) where
  alone : Checked Data
  many : Checked (List Data)

/-- Entries of a table, each value with its readings in every scope. -/
abbrev Readings (Scope Data : Type) := List (String × Value × (Scope → Reading Data))

def Readings.table {Scope Data : Type} (entries : Readings Scope Data) : Table :=
  entries.map fun (key, value, _) => (key, value)

/-- The readings of a value whose parts may be data of the same kind. What surrounds the value is
its scope; `read` is given the entries of a table, and nothing for any other value. Anything but a
list of such data is `noList`. -/
def recursive {Scope Data : Type} (noList : Fault)
    (read : Scope → Option (Readings Scope Data) → Checked Data) :
    Value → Scope → Reading Data :=
  Value.fold fun
    | .scalar _ => fun scope => ⟨read scope none, .fault noList⟩
    | .list items => fun scope =>
      ⟨read scope none, Checked.items (items.map fun (_, reading) => (reading scope).alone)⟩
    | .table entries => fun scope => ⟨read scope (some entries), .fault noList⟩

/-- The part under a key that must be there, in a scope. -/
def requiredPart {Scope Data Part : Type} (key : String) (scope : Scope)
    (part : Reading Data → Checked Part) (entries : Readings Scope Data) : Checked Part :=
  Checked.inside (.key key) <|
    match entries.lookup key with
    | some (_, reading) => part (reading scope)
    | none => .fault .missing

/-- The part under a key, or a default when the key is not there. -/
def defaultingPart {Scope Data Part : Type} (key : String) (scope : Scope) (default : Part)
    (part : Reading Data → Checked Part) (entries : Readings Scope Data) : Checked Part :=
  Checked.inside (.key key) <|
    match entries.lookup key with
    | some (_, reading) => part (reading scope)
    | none => .valid default

/-- The part under a key that may be missing or `null`. -/
def optionalPart {Scope Data : Type} (key : String) (scope : Scope)
    (entries : Readings Scope Data) : Checked (Option Data) :=
  Checked.inside (.key key) <|
    match entries.lookup key with
    | some (.null, _) | none => .valid none
    | some (_, reading) => (reading scope).alone.map some

end Reader

end SchemaGrammar
