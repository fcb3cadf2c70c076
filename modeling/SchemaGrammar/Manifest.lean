import SchemaGrammar.Diagnostic
import SchemaGrammar.Failure
import SchemaGrammar.Text.Uppercase
import SchemaGrammar.Toml.Reader
import SchemaGrammar.Value.Text
set_option autoImplicit false

/-!
Manifests: the settings of a project. A manifest names the schema, the directory that grammars are
written to, the indentation of their text and the level of the log. The values of the names are
taken as they are; a schema or a directory that is no text only fails when its path is asked for.
-/

namespace SchemaGrammar

/-- Why a manifest is rejected. -/
inductive ManifestFault where
  | missing (path : FilePath)
  | invalid (path : FilePath) (reason : String)
  | noSchema (path : FilePath)
  | badIndent (path : FilePath)
  | unknownLevel (level : String) (path : FilePath)
  deriving DecidableEq

namespace ManifestFault

def message : ManifestFault → String
  | missing path => s!"Manifest not found: {path.text}"
  | invalid path reason => s!"Invalid manifest {path.text}: {reason}"
  | noSchema path => s!"project.schema must be set in {path.text}"
  | badIndent path => s!"output.indent must be a non-negative integer in {path.text}"
  | unknownLevel level path => s!"Unknown logging.level '{level}' in {path.text}"

def diagnostic (fault : ManifestFault) : Diagnostic := ⟨.manifest, fault.message, none⟩

end ManifestFault

/-- What ends the reading of a manifest. -/
abbrev ManifestError := Stop ManifestFault

/-- The levels of the log by their names. -/
def levels : List (String × Nat) :=
  [("CRITICAL", 50), ("FATAL", 50), ("ERROR", 40), ("WARN", 30), ("WARNING", 30), ("INFO", 20),
    ("DEBUG", 10), ("NOTSET", 0)]

structure Manifest where
  name : Value
  schema : Value
  root : FilePath
  output : Value
  indent : Nat
  level : String
  threshold : Nat

namespace Value

/-- Values that stand for something missing: nothing, zeros, and what is empty. -/
def isVoid : Value → Bool
  | .null | .bool false => true
  | .integer value => value == 0
  | .float value => value.isZero
  | .string text => text.isEmpty
  | .list items => items.isEmpty
  | .table entries => entries.isEmpty
  | .bool true | .moment _ => false

end Value

namespace Manifest

def fileName : String := "sapling.toml"

/-- A setting of a section; a section that is not there has no settings. -/
def setting (manifest : Table) (heading key : String) : Except ManifestError (Option Value) :=
  match manifest.lookup heading with
  | none => .ok none
  | some (.table entries) => .ok (entries.lookup key)
  | some _ => .error (.failure .sectionNotTable)

/-- The table of settings in a file. -/
def settings (workspace : Workspace) (path : FilePath) : Except ManifestError Table := do
  let found ← (workspace.contains path).mapError fun fault => .failure (.read (.access fault))
  if found then
    let text ← (workspace.readText path).mapError fun fault => .failure (.read fault)
    (Toml.read text).mapError (Stop.ofDocument (.invalid path "it is not a TOML document"))
  else .error (.error (.missing path))

/-- The schema, which must be given. -/
def schemaSetting (path : FilePath) (manifest : Table) : Except ManifestError Value := do
  let schema ← setting manifest "project" "schema"
  match schema with
  | some value => if value.isVoid then .error (.error (.noSchema path)) else .ok value
  | none => .error (.error (.noSchema path))

/-- The indentation, a natural number. -/
def indentSetting (path : FilePath) (manifest : Table) : Except ManifestError Nat := do
  let indent ← setting manifest "output" "indent"
  match indent with
  | none => .ok 2
  | some (.integer (.ofNat value)) => .ok value
  | some _ => .error (.error (.badIndent path))

/-- The level of the log in capital letters, and its value. -/
def levelSetting (path : FilePath) (manifest : Table) : Except ManifestError (String × Nat) := do
  let level := (← setting manifest "logging" "level").getD (.string "WARNING")
  if level.isPrintable then
    let name := Text.uppercase level.text
    match levels.lookup name with
    | some threshold => .ok (name, threshold)
    | none => .error (.error (.unknownLevel name path))
  else .error (.failure .longInteger)

/-- The settings of a manifest, each checked in its turn. -/
def ofTable (path : FilePath) (manifest : Table) : Except ManifestError Manifest := do
  let schema ← schemaSetting path manifest
  let indent ← indentSetting path manifest
  let (level, threshold) ← levelSetting path manifest
  let name ← setting manifest "project" "name"
  let output ← setting manifest "output" "dir"
  pure
    { name := name.getD (.string path.parent.name)
      schema
      root := path.parent
      output := output.getD (.string "grammars")
      indent
      level
      threshold }

def load (workspace : Workspace) (path : FilePath) : Except ManifestError Manifest := do
  ofTable path (← settings workspace path)

/-- A path of the manifest as seen from the directory that holds it. -/
def pathOf (manifest : Manifest) : Value → Except Failure FilePath
  | .string text => .ok (manifest.root.join (.ofText text))
  | _ => .error .pathNotText

def schemaFile (manifest : Manifest) : Except Failure FilePath := manifest.pathOf manifest.schema

def outputDirectory (manifest : Manifest) : Except Failure FilePath :=
  manifest.pathOf manifest.output

end Manifest

end SchemaGrammar
