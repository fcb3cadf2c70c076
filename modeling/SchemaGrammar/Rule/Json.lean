import SchemaGrammar.Json.Printer
import SchemaGrammar.Json.Reader
import SchemaGrammar.Rule
import SchemaGrammar.Schema.Reader
set_option autoImplicit false

/-!
The JSON form of rules and grammars. Every rule is an object that begins with its kind. Reading
ignores unknown keys; the list of extras may be missing, and a precedence may be given by anything
that stands for an integer in the range. In the text of a grammar a rule may be written several
times: all its versions must be in order, and the last one counts.
-/

namespace SchemaGrammar

namespace Rule

/-- A reference to a rule as an object. -/
def symbolValue (name : String) : Value :=
  .table [("type", .string "SYMBOL"), ("name", .string name)]

mutual

def toValue : Rule → Value
  | symbol name => symbolValue name
  | seq members => .table [("type", .string "SEQ"), ("members", .list (toValues members))]
  | choice members => .table [("type", .string "CHOICE"), ("members", .list (toValues members))]
  | .repeat content => .table [("type", .string "REPEAT"), ("content", toValue content)]
  | repeat1 content => .table [("type", .string "REPEAT1"), ("content", toValue content)]
  | field name content =>
    .table [("type", .string "FIELD"), ("name", .string name), ("content", toValue content)]
  | precLeft level content =>
    .table [("type", .string "PREC_LEFT"), ("value", .integer level.toNat),
      ("content", toValue content)]
  | pattern value => .table [("type", .string "PATTERN"), ("value", .string value)]
  | string value => .table [("type", .string "STRING"), ("value", .string value)]
  | blank => .table [("type", .string "BLANK")]

def toValues : List Rule → List Value
  | [] => []
  | rule :: rest => toValue rule :: toValues rest

end

/-- A precedence given by an integer or something that stands for one. -/
def levelReader : Reader Level := fun value =>
  Checked.andThen levelOfInt (Reader.looseInteger value)

/-- What the rules around a rule leave to it. -/
structure Scope where
  /-- The number of levels that may still be nested. -/
  room : Nat
  /-- The place of the first kind that a rule around this one has, in the order of the kinds. -/
  earliest : Nat

/-- The kinds of rules that hold other rules. -/
def compoundTags : List String := ["SEQ", "CHOICE", "REPEAT", "REPEAT1", "FIELD", "PREC_LEFT"]

/-- The scope of a rule with no rules around it. -/
def Scope.outermost : Scope := ⟨deepestLevel, compoundTags.length⟩

/-- The levels that a rule takes up: one, and one more if it holds other rules and no rule around it
is of its kind or an earlier one. -/
def Scope.levels (scope : Scope) (kind : String) : Nat :=
  if compoundTags.idxOf kind < scope.earliest then 2 else 1

/-- Data that are read in the scope of a rule's parts. -/
def Scope.enter {Data : Type} (scope : Scope) (kind : String) (read : Scope → Checked Data) :
    Checked Data :=
  Checked.within (scope.levels kind) scope.room fun room =>
    read ⟨room, min (compoundTags.idxOf kind) scope.earliest⟩

/-- Entries of a rule's table, with the rules that their values are. -/
abbrev Entries := Reader.Readings Scope Rule

/-- The data of a rule of a known kind, given the scope of its parts. -/
def body? (entries : Entries) : String → Option (Scope → Checked Rule)
  | "SYMBOL" => some fun _ => symbol <$> Reader.required "name" Reader.string entries.table
  | "SEQ" => some fun scope => seq <$> Reader.requiredPart "members" scope (·.many) entries
  | "CHOICE" => some fun scope => choice <$> Reader.requiredPart "members" scope (·.many) entries
  | "REPEAT" => some fun scope => .repeat <$> Reader.requiredPart "content" scope (·.alone) entries
  | "REPEAT1" => some fun scope =>
    repeat1 <$> Reader.requiredPart "content" scope (·.alone) entries
  | "FIELD" => some fun scope =>
    field
      <$> Reader.required "name" Reader.string entries.table
      <*> Reader.requiredPart "content" scope (·.alone) entries
  | "PREC_LEFT" => some fun scope =>
    precLeft
      <$> Reader.required "value" levelReader entries.table
      <*> Reader.requiredPart "content" scope (·.alone) entries
  | "PATTERN" => some fun _ => pattern <$> Reader.required "value" Reader.string entries.table
  | "STRING" => some fun _ => string <$> Reader.required "value" Reader.string entries.table
  | "BLANK" => some fun _ => .valid blank
  | _ => none

/-- A rule says by its type what it is. -/
def readEntries (scope : Scope) (entries : Entries) : Checked Rule :=
  match entries.table.lookup "type" with
  | none => .fault (.noTag "type")
  | some tag =>
    let unknown : Checked Rule := .fault (.unknownTag "type" tag.label tags)
    match tag with
    | .string kind =>
      match body? entries kind with
      | some body => (scope.enter kind body).inside (.key kind)
      | none => unknown
    | _ => unknown

def reading : Value → Scope → Reader.Reading Rule :=
  Reader.recursive .notList fun scope entries? =>
    match entries? with
    | some entries => readEntries scope entries
    | none => .fault .notTagged

def readerIn (scope : Scope) : Reader Rule := fun value => (reading value scope).alone

def reader : Reader Rule := readerIn .outermost

end Rule

namespace Grammar

/-- The rules by their names. A name is a key, and a key is always Unicode text; where names become
the same key, the last rule counts. -/
def rulesValue (grammar : Grammar) : Value :=
  .table (Table.distinct
    (grammar.rules.map fun (name, rule) => (Text.withReplacements name, rule.toValue)))

def toValue (grammar : Grammar) : Value :=
  .table
    [("name", .string grammar.name), ("rules", grammar.rulesValue),
      ("extras", .list (grammar.extras.map Rule.symbolValue))]

/-- An extra is a reference to a rule; its type may be left out. -/
def extraReader : Reader String :=
  Reader.model "Symbol" fun table =>
    (fun () name => name)
      <$> Reader.defaulting "type" () (Reader.literal "SYMBOL") table
      <*> Reader.required "name" Reader.string table

/-- The rules by their names, every version of each being read. -/
def rulesReader : Reader (List (String × Rule))
  | .table entries =>
    (Checked.entries (entries.map fun (name, value) =>
      (name, Rule.reader value.distinct))).map Table.distinct
  | _ => .fault .notTable

def extrasReader : Reader (List String) := fun value => Reader.list extraReader value.distinct

/-- A grammar whose tables may hold several entries with one key. -/
def reader : Reader Grammar :=
  Reader.model "Grammar" fun entries =>
    let table := Table.distinct entries
    Grammar.mk
      <$> Reader.required "name" Reader.string table
      <*> Reader.required "rules" rulesReader table
      <*> Reader.defaulting "extras" [] extrasReader table

/-- The JSON text of a grammar. -/
def render (indent : Option Int) (grammar : Grammar) : String := Json.render indent grammar.toValue

/-- The grammar that a JSON text describes. -/
def ofText (text : String) : Checked Grammar :=
  match Json.read .grammar text with
  | .ok value => reader value
  | .error _ => .fault .unreadableText

end Grammar

end SchemaGrammar
