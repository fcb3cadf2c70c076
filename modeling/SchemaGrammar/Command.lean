import SchemaGrammar.Command.Arguments
import SchemaGrammar.Console.Markup
import SchemaGrammar.Console.Table
import SchemaGrammar.Log
import SchemaGrammar.Manifest
set_option autoImplicit false

/-!
Running a command on a workspace. A command first looks for its manifest, then for the schema, and
compiles all grammars before it prints or writes anything; whatever is wrong on the way is reported
and ends the run. What a run prints, writes and leaves behind is its outcome.
-/

namespace SchemaGrammar

def version : String := "0.3.0"

/-- Why a run ends early. -/
inductive Refusal where
  | noSchema
  | schemaNotFound (path : FilePath)
  | noGrammar (name : String)
  | reported (diagnostic : Diagnostic)
  | failed (failure : Failure)
  deriving DecidableEq

namespace Refusal

/-- The report of a refusal in marked-up text; a failure has none. -/
def markup : Refusal → Option String
  | noSchema => some s!"[red]No schema given and no {Manifest.fileName} found.[/red]"
  | schemaNotFound path => some s!"[red]Schema not found: {Console.escape path.text}[/red]"
  | noGrammar name => some s!"[red]No grammar named '{Console.escape name}'.[/red]"
  | reported diagnostic => some s!"[red]Error:[/red] {Console.escape diagnostic.text}"
  | failed _ => none

def failure? : Refusal → Option Failure
  | failed failure => some failure
  | _ => none

/-- The refusal for an error that has a report, and for a failure. -/
def ofStop {Error : Type} (diagnostic : Error → Diagnostic) : Stop Error → Refusal
  | .error error => .reported (diagnostic error)
  | .failure failure => .failed failure

/-- The refusal for a path that cannot be looked at. -/
def ofAccess (fault : AccessFault) : Refusal := .failed (.read (.access fault))

end Refusal

/-- What a run prints and leaves behind. -/
structure Outcome where
  exit : Nat
  output : String
  errors : String
  failure : Option Failure
  workspace : Workspace

/-- One line on the console. -/
def printed (markup : String) : String := Console.plain markup ++ "\n"

namespace Command

/-- The manifest that is asked for, or the one in the current directory if there is one. -/
def manifest (workspace : Workspace) (path : Option FilePath) :
    Except Refusal (Option Manifest) :=
  let current : FilePath := ⟨"/", workspace.current⟩
  let load (path : FilePath) : Except Refusal (Option Manifest) :=
    ((Manifest.load workspace path).map some).mapError (.ofStop ManifestFault.diagnostic)
  match path with
  | some path =>
    if path.isValid then load (current.resolve path) else .error (.ofAccess .invalidName)
  | none => do
    let path := current.child Manifest.fileName
    let found ← (workspace.contains path).mapError .ofAccess
    if found then load path else pure none

/-- The schema that is asked for, or the one of the manifest. -/
def schemaFile (schema : Option FilePath) (manifest : Option Manifest) :
    Except Refusal FilePath :=
  match schema, manifest with
  | some path, _ => .ok path
  | none, some manifest => manifest.schemaFile.mapError .failed
  | none, none => .error .noSchema

/-- The schema, which must be there. -/
def locate (workspace : Workspace) (schema : Option FilePath) (manifest : Option Manifest) :
    Except Refusal FilePath := do
  let path ← schemaFile schema manifest
  let found ← (workspace.contains path).mapError .ofAccess
  if found then pure path else .error (.schemaNotFound path)

/-- The level from which the log is shown, unless everything is asked for. -/
def threshold (verbose : Bool) (manifest : Option Manifest) : Nat :=
  if verbose then Severity.debug.value
  else
    match manifest with
    | some manifest => manifest.threshold
    | none => Severity.warning.value

/-- What a command has done when all grammars are compiled: the log and the grammars. -/
structure Compilation where
  threshold : Nat
  log : Log
  grammars : Except Refusal (List Grammar)
  manifest : Option Manifest

def compile (workspace : Workspace) (verbose : Bool) (schema manifest : Option FilePath) :
    Compilation :=
  match Command.manifest workspace manifest with
  | .error refusal => ⟨threshold verbose none, [], .error refusal, none⟩
  | .ok manifest =>
    let level := threshold verbose manifest
    match locate workspace schema manifest with
    | .error refusal => ⟨level, [], .error refusal, manifest⟩
    | .ok path =>
      let grammars := (workspace.grammars path).mapError (.ofStop SchemaError.diagnostic)
      ⟨level, Log.ofSchema workspace path, grammars, manifest⟩

/-- The outcome of a run that is refused after some output. -/
def refused (workspace : Workspace) (output log : String) (refusal : Refusal) : Outcome :=
  ⟨1, output, log ++ (refusal.markup.map printed).getD "", refusal.failure?, workspace⟩

/-- Grammars written one after the other, up to the first that cannot be written. -/
structure Writing where
  written : List Grammar
  failure : Option Failure
  workspace : Workspace

def write (output : FilePath) (indent : Int) : List Grammar → Workspace → Writing
  | [], workspace => ⟨[], none, workspace⟩
  | grammar :: rest, workspace =>
    match workspace.saveGrammar output indent grammar with
    | .error fault => ⟨[], some (.write fault), workspace⟩
    | .ok workspace =>
      if Text.isEncodable (grammar.fileText indent) then
        let writing := write output indent rest workspace
        { writing with written := grammar :: writing.written }
      else ⟨[], some .notEncodable, workspace⟩

/-- The line for a grammar that has been written. -/
def writtenLine (output : FilePath) (grammar : Grammar) : String :=
  let name := Console.escape grammar.name
  let path := Console.escape (grammar.file output).text
  printed s!"  [green]✓[/green] {name} -> {path}"

/-- The directory that is asked for, or that of the manifest. -/
def outputDirectory (output : Option FilePath) (manifest : Option Manifest) :
    Except Refusal FilePath :=
  match output, manifest with
  | some path, _ => .ok path
  | none, some manifest => manifest.outputDirectory.mapError .failed
  | none, none => .ok (.ofText "grammars")

/-- The indentation that is asked for, or that of the manifest. -/
def indentation (indent : Option Int) (manifest : Option Manifest) : Int :=
  match indent, manifest with
  | some indent, _ => indent
  | none, some manifest => manifest.indent
  | none, none => 2

def generate (workspace : Workspace) (verbose : Bool) (schema manifest output : Option FilePath)
    (indent : Option Int) : Outcome :=
  let compilation := compile workspace verbose schema manifest
  let log (more : Log) : String := Log.text compilation.threshold (compilation.log ++ more)
  let found := do
    let grammars ← compilation.grammars
    let output ← outputDirectory output compilation.manifest
    pure (grammars, output)
  match found with
  | .error refusal => refused workspace "" (log []) refusal
  | .ok (grammars, output) =>
    let writing := write output (indentation indent compilation.manifest) grammars workspace
    let lines := "".intercalate (writing.written.map (writtenLine output))
    let log := log (writing.written.map fun grammar => Log.ofWritten (grammar.file output))
    match writing.failure with
    | some failure => refused writing.workspace lines log (.failed failure)
    | none =>
      let lines :=
        if grammars.isEmpty then printed "[yellow]No grammar modules found.[/yellow]" else lines
      ⟨0, lines, log, none, writing.workspace⟩

/-- The list of grammars with the numbers of their rules and extras. -/
def grammarTable (grammars : List Grammar) : Console.Table :=
  ⟨"Grammars", ["Grammar", "Rules", "Extras"],
    grammars.map fun grammar =>
      [grammar.name, toString grammar.rules.length, toString grammar.extras.length]⟩

def check (workspace : Workspace) (verbose : Bool) (schema manifest : Option FilePath) : Outcome :=
  let compilation := compile workspace verbose schema manifest
  let log := Log.text compilation.threshold compilation.log
  match compilation.grammars with
  | .error refusal => refused workspace "" log refusal
  | .ok grammars =>
    let table := if grammars.isEmpty then "" else (grammarTable grammars).text
    ⟨0, table ++ printed "[green]Schema is valid.[/green]", log, none, workspace⟩

/-- All grammars, or those with a name, of which there must be one. -/
def select (name : Option String) (grammars : List Grammar) : Except Refusal (List Grammar) :=
  match name with
  | none => .ok grammars
  | some name =>
    match grammars.filter fun grammar => grammar.name == name with
    | [] => .error (.noGrammar name)
    | selected => .ok selected

def display (workspace : Workspace) (verbose : Bool) (schema : FilePath) (name : Option String)
    (indent : Int) : Outcome :=
  let compilation := compile workspace verbose schema none
  let log := Log.text compilation.threshold compilation.log
  match compilation.grammars >>= select name with
  | .error refusal => refused workspace "" log refusal
  | .ok grammars =>
    let texts := grammars.map (Grammar.fileText indent)
    let printable := texts.takeWhile Text.isEncodable
    let output := "".intercalate printable
    if printable.length < texts.length then refused workspace output log (.failed .notEncodable)
    else ⟨0, output, log, none, workspace⟩

/-- The outcome as it is shown: among the errors, surrogates are written by their numbers. -/
def shown (outcome : Outcome) : Outcome :=
  { outcome with errors := Text.withEscapes outcome.errors }

/-- The program and the environment it runs in. -/
def versionText : String := s!"sapling {version}\nLean 4\n"

def run (command : Command) (workspace : Workspace) : Outcome :=
  shown <|
    match command.action with
    | .version => ⟨0, versionText, "", none, workspace⟩
    | .generate schema manifest output indent =>
      generate workspace command.verbose schema manifest output indent
    | .check schema manifest => check workspace command.verbose schema manifest
    | .display schema name indent => display workspace command.verbose schema name indent

end Command

end SchemaGrammar
