import SchemaGrammar.Command.Paths
set_option autoImplicit false

/-!
The program on a real file system. The files that a command looks at are read into a workspace, the
command is run on it, and what the run has made is written back.
-/

namespace SchemaGrammar.Program

def placeText (place : Place) : String := "/" ++ "/".intercalate place

/-- What is at a place: a file if it can be read, nothing if there is none, else a directory. -/
def nodeAt (place : Place) : IO (Option Node) := do
  try
    let content ← IO.FS.readBinFile (placeText place)
    pure (some (.file content))
  catch
    | .noFileOrDirectory .. => pure none
    | _ => pure (some .directory)

/-- Adds what is at some places, each before the places inside it. -/
def observe (places : List Place) (workspace : Workspace) : IO Workspace :=
  places.foldlM (fun workspace place => do
    if (workspace.node? place).isSome then pure workspace
    else
      match ← nodeAt place with
      | some node => pure (workspace.put place node)
      | none => pure workspace) workspace

/-- The workspace of a command. What is read in one round tells what to read in the next. -/
def observeAll (command : Command) (rounds : Nat) (workspace : Workspace) : IO Workspace :=
  match rounds with
  | 0 => pure workspace
  | rounds + 1 => do
    let places := (command.paths workspace).flatMap (Command.placesOf workspace)
    observeAll command rounds (← observe places workspace)

/-- Makes the directories and files that were not there before, in the order of the run. -/
def store (before after : Workspace) : IO Unit :=
  after.nodes.reverse.forM fun (place, node) =>
    match node, before.node? place with
    | .directory, none => IO.FS.createDir (placeText place)
    | .file content, some (.file former) =>
      if content.data = former.data then pure ()
      else IO.FS.writeBinFile (placeText place) content
    | .file content, _ => IO.FS.writeBinFile (placeText place) content
    | .directory, some _ => pure ()

def usage : String :=
  "Usage: sapling [--version] [-v] generate|check|show [SCHEMA] [-m MANIFEST] [-o OUT] " ++
    "[-g GRAMMAR] [--indent N]\n"

def run (command : Command) : IO UInt32 := do
  let current := FilePath.ofText (← IO.currentDir).toString
  let empty : Workspace := ⟨current.segments, []⟩
  let start ← observe (Command.visited [] current.segments) empty
  let workspace ← observeAll command 3 start
  let outcome := command.run workspace
  store workspace outcome.workspace
  (← IO.getStdout).putStr outcome.output
  (← IO.getStderr).putStr outcome.errors
  pure (UInt32.ofNat outcome.exit)

end SchemaGrammar.Program

def main (arguments : List String) : IO UInt32 :=
  match SchemaGrammar.Command.ofArguments? arguments with
  | some command => SchemaGrammar.Program.run command
  | none => do
    (← IO.getStderr).putStr SchemaGrammar.Program.usage
    pure 2
