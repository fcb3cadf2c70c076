import SchemaGrammar.Output
import SchemaGrammar.Schema.Document
import SchemaGrammar.Text.Quoted
set_option autoImplicit false

/-!
The log of a run: what is loaded, compiled and written, in the order in which it happens. The lines
are told apart from the work itself, whose results they do not affect.
-/

namespace SchemaGrammar

inductive Severity where
  | debug
  | info
  | warning
  deriving DecidableEq

namespace Severity

def name : Severity → String
  | debug => "DEBUG"
  | info => "INFO"
  | warning => "WARNING"

def value : Severity → Nat
  | debug => 10
  | info => 20
  | warning => 30

end Severity

/-- The part of the program that a line comes from. -/
inductive LogSource where
  | schema
  | record
  | draft
  | grammar
  | output
  deriving DecidableEq

def LogSource.name : LogSource → String
  | .schema => "sapling.core.loader"
  | .record => "sapling.core.records"
  | .draft => "sapling.core.rule_table"
  | .grammar => "sapling.core.assembler"
  | .output => "sapling.core.emit"

structure LogLine where
  severity : Severity
  source : LogSource
  message : String
  deriving DecidableEq

abbrev Log := List LogLine

namespace Log

def lineText (line : LogLine) : String :=
  line.severity.name ++ " " ++ line.source.name ++ ": " ++ line.message ++ "\n"

/-- The lines at a threshold and above it. -/
def text (threshold : Nat) (log : Log) : String :=
  "".intercalate ((log.filter fun line => threshold ≤ line.severity.value).map lineText)

/-- A record has been compiled; its rule is a sequence, perhaps with a level of precedence. -/
def ofCompiled (entry : Entry) : Log :=
  let line (members : List Rule) : Log :=
    [⟨.debug, .record, s!"Compiled {entry.name}: {members.length} members"⟩]
  match entry.rule with
  | .seq members | .precLeft _ (.seq members) => line members
  | _ => []

def ofRegistered (entry : Entry) : LogLine :=
  ⟨.debug, .draft, s!"Registered rule {entry.name} ({entry.rule.tag})"⟩

/-- Entries that are added to a draft up to the first whose name is taken. -/
def ofEntries (draft : Draft) : List Entry → Log
  | [] => []
  | entry :: rest =>
    ofCompiled entry ++
      match draft.add entry with
      | .ok draft => ofRegistered entry :: ofEntries draft rest
      | .error _ => []

def ofGrammar (definitions : List Definition) (grammar : Grammar) : LogLine :=
  let root :=
    match Definition.root definitions with
    | .ok root => root.name
    | .error _ => ""
  ⟨.info, .grammar,
    s!"Compiled grammar '{grammar.name}': {grammar.rules.length} rules, " ++
      s!"{grammar.extras.length} extras, root {root}"⟩

/-- The compilation of a module. Its rules are compiled once its name and its root are known. -/
def ofModule (spec : SchemaModule) : Log :=
  let rules : Log :=
    match Grammar.checkedName (.string spec.grammarName), Definition.root spec.definitions with
    | .ok name, .ok _ => ofEntries (.new name) (Definition.rules spec.definitions).entries
    | _, _ => []
  let grammar : Log :=
    match spec.compile with
    | .ok grammar => [ofGrammar spec.definitions grammar]
    | .error _ => []
  ⟨.debug, .schema,
    s!"Compiling module {spec.name} (grammar {Text.quoted spec.grammarName})"⟩ :: rules ++ grammar

/-- Modules up to the first whose grammar has a name that is taken or cannot be compiled. -/
def ofModules (earlier : List SchemaModule) : List SchemaModule → Log
  | [] => []
  | spec :: rest =>
    match spec.owner? earlier, spec.compile with
    | some _, _ => []
    | none, .error _ => ofModule spec
    | none, .ok _ => ofModule spec ++ ofModules (earlier ++ [spec]) rest

/-- The compilation of a schema file. -/
def ofSchema (workspace : Workspace) (path : FilePath) : Log :=
  let loading : Log :=
    if (DocumentFormat.ofSuffix? path.suffix).isSome then
      [⟨.debug, .schema, s!"Loading schema {path.text}"⟩]
    else []
  let modules : Log :=
    match workspace.readSchema path with
    | .error _ => []
    | .ok schema =>
      if schema.grammarModules.isEmpty then
        [⟨.warning, .schema, s!"Schema {path.text} declares no grammar modules"⟩]
      else ofModules [] schema.grammarModules
  loading ++ modules

def ofWritten (path : FilePath) : LogLine := ⟨.info, .output, s!"Wrote {path.text}"⟩

end Log

end SchemaGrammar
