import SchemaGrammar.Failure
import SchemaGrammar.Json.Reader
import SchemaGrammar.Schema.Modules
import SchemaGrammar.Schema.Reader
import SchemaGrammar.Toml.Reader
set_option autoImplicit false

/-!
Schema documents. A document is a TOML or a JSON file, told apart by the suffix of its name; its
table is read as the outermost module of a schema. A file that cannot be read is an error of the
schema, but a path that no file can have, a number that is too long and values that lie too deep in
each other are failures.
-/

namespace SchemaGrammar

inductive DocumentFormat where
  | toml
  | json
  deriving DecidableEq

namespace DocumentFormat

def ofSuffix? : String → Option DocumentFormat
  | ".toml" => some .toml
  | ".json" => some .json
  | _ => none

/-- The value of a document. -/
def read (format : DocumentFormat) (text : String) : Except DocumentFault Value :=
  match format with
  | .toml => (Toml.read text).map .table
  | .json => (Json.read .document text).map Value.distinct

def name : DocumentFormat → String
  | .toml => "TOML"
  | .json => "JSON"

end DocumentFormat

def AccessFault.message : AccessFault → String
  | .missing => "no such file or directory"
  | .notDirectory => "a part of the path is not a directory"
  | .isDirectory => "it is a directory"
  | .taken => "it exists already"
  | .nameTooLong => "a name is too long"
  | .invalidName => "a name holds the character zero"

def ReadFault.message : ReadFault → String
  | .access fault => fault.message
  | .notText => "it is not UTF-8 text"

/-- The schema that a value describes. -/
def SchemaModule.ofValue (file : Option FilePath) (document : Value) :
    Except SchemaError SchemaModule :=
  match reader document with
  | .valid schema => .ok schema
  | .invalid problems => .error ⟨.invalid problems, some ⟨file, none, none⟩⟩

namespace Workspace

/-- Why the text of a schema is not there. -/
def unreadable : ReadFault → Stop SchemaFault
  | .access .invalidName => .failure (.read (.access .invalidName))
  | fault => .error (.unreadable fault.message)

/-- The table that a file writes in a format. -/
def document (workspace : Workspace) (path : FilePath) (format : DocumentFormat) :
    Except (Stop SchemaFault) Value := do
  let text ← (workspace.readText path).mapError unreadable
  let malformed : SchemaFault := .unreadable s!"it is not a {format.name} document"
  match ← (format.read text).mapError (Stop.ofDocument malformed) with
  | .table entries => pure (.table entries)
  | _ => .error (.error .notTable)

/-- The format that the name of a file tells. -/
def formatOf (path : FilePath) : Except SchemaError DocumentFormat :=
  match DocumentFormat.ofSuffix? path.suffix with
  | some format => .ok format
  | none => .error (.atFile path (.unsupportedFormat path.suffix))

def readSchema (workspace : Workspace) (path : FilePath) :
    Except (Stop SchemaError) SchemaModule := do
  let format ← (formatOf path).mapError .error
  let document ← (workspace.document path format).mapError (Stop.map (SchemaError.atFile path))
  (SchemaModule.ofValue path document).mapError .error

/-- The grammars of a schema file, those of inner modules first. -/
def grammars (workspace : Workspace) (path : FilePath) :
    Except (Stop SchemaError) (List Grammar) := do
  let schema ← workspace.readSchema path
  (schema.grammars path).mapError .error

end Workspace

end SchemaGrammar
