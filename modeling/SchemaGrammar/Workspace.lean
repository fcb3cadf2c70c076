import SchemaGrammar.FilePath
import SchemaGrammar.Text.Newlines
set_option autoImplicit false

/-!
Files and directories, and the current directory that relative paths start from. A place is the
list of names from the root down. A path is followed name by name through directories; a double
point leads back to the directory above. Names and paths have a limited length, counted in the bytes
of their UTF-8 form. `node?_put` says what putting a node somewhere changes.
-/

namespace SchemaGrammar

inductive Node where
  | directory
  | file (content : ByteArray)

abbrev Place := List String

/-- The root is always a directory and has no entry of its own. -/
structure Workspace where
  current : Place
  nodes : List (Place × Node)

/-- Why a file or a directory cannot be used. -/
inductive AccessFault where
  | missing
  | notDirectory
  | isDirectory
  | taken
  | nameTooLong
  | invalidName
  deriving DecidableEq

/-- The greatest length of a name. -/
def longestName : Nat := 255

/-- The greatest length of a path. -/
def longestPath : Nat := 4095

namespace Workspace

def node? (workspace : Workspace) (place : Place) : Option Node :=
  if place = [] then some .directory else workspace.nodes.lookup place

/-- Puts a node at a place, whatever was there. -/
def put (place : Place) (node : Node) (workspace : Workspace) : Workspace :=
  { workspace with
    nodes := (place, node) :: workspace.nodes.filter fun (other, _) => other != place }

theorem lookup_filter_ne {place other : Place} (different : other ≠ place)
    (nodes : List (Place × Node)) :
    (nodes.filter fun (listed, _) => listed != place).lookup other = nodes.lookup other := by
  induction nodes with
  | nil => rfl
  | cons entry rest ih =>
    obtain ⟨listed, node⟩ := entry
    by_cases same : listed = place
    · subst same
      have unequal : (other == listed) = false := by simpa using different
      simp [ih, List.lookup_cons, unequal]
    · simp [same, ih, List.lookup_cons]

theorem node?_put (place other : Place) (node : Node) (workspace : Workspace) :
    (workspace.put place node).node? other =
      if other = [] then some .directory
      else if other = place then some node else workspace.node? other := by
  by_cases root : other = []
  · simp [node?, root]
  · by_cases same : other = place
    · simp [node?, put, same]
    · have unequal : (other == place) = false := by simpa using same
      simp [node?, put, root, same, List.lookup_cons, unequal, lookup_filter_ne same]

/-- The place of a name in a directory. -/
def enter (workspace : Workspace) (place : Place) (name : String) : Except AccessFault Place :=
  match workspace.node? place with
  | some .directory =>
    if longestName < name.utf8ByteSize then .error .nameTooLong
    else .ok (if name = ".." then place.dropLast else place ++ [name])
  | some (.file _) => .error .notDirectory
  | none => .error .missing

/-- The place that a path leads to. There may be nothing there, but in a directory. -/
def place (workspace : Workspace) (path : FilePath) : Except AccessFault Place :=
  if !path.isValid then .error .invalidName
  else if longestPath < path.text.utf8ByteSize then .error .nameTooLong
  else path.segments.foldlM workspace.enter (if path.isAbsolute then [] else workspace.current)

def find (workspace : Workspace) (path : FilePath) : Except AccessFault Node := do
  match workspace.node? (← workspace.place path) with
  | some node => .ok node
  | none => .error .missing

/-- Whether a path leads to something. A path that is too long is no question at all. -/
def contains (workspace : Workspace) (path : FilePath) : Except AccessFault Bool :=
  match workspace.find path with
  | .ok _ => .ok true
  | .error .nameTooLong => .error .nameTooLong
  | .error _ => .ok false

def hasDirectory (workspace : Workspace) (path : FilePath) : Bool :=
  match workspace.find path with
  | .ok .directory => true
  | _ => false

/-- The content of a file. -/
def read (workspace : Workspace) (path : FilePath) : Except AccessFault ByteArray := do
  match ← workspace.find path with
  | .file content => .ok content
  | .directory => .error .isDirectory

/-- Makes one directory where there is nothing yet. -/
def makeDirectory (path : FilePath) (workspace : Workspace) : Except AccessFault Workspace := do
  let place ← workspace.place path
  match workspace.node? place with
  | some _ => .error .taken
  | none => .ok (workspace.put place .directory)

/-- Makes a directory, which may be there already. -/
def provideDirectory (path : FilePath) (workspace : Workspace) : Except AccessFault Workspace :=
  match workspace.makeDirectory path with
  | .ok next => .ok next
  | .error fault => if workspace.hasDirectory path then .ok workspace else .error fault

/-- Makes a directory, after the directories above it where these are missing. The names of the
path come innermost first. -/
def provideNested (root : String) :
    List String → Workspace → Except AccessFault Workspace
  | [], workspace => workspace.provideDirectory ⟨root, []⟩
  | name :: outer, workspace =>
    let path : FilePath := ⟨root, (name :: outer).reverse⟩
    match workspace.provideDirectory path with
    | .error .missing => do
      let workspace ← provideNested root outer workspace
      workspace.provideDirectory path
    | result => result

def provideDirectories (path : FilePath) (workspace : Workspace) : Except AccessFault Workspace :=
  provideNested path.root path.segments.reverse workspace

/-- Writes a file in a directory that is there. -/
def write (path : FilePath) (content : ByteArray) (workspace : Workspace) :
    Except AccessFault Workspace := do
  let place ← workspace.place path
  match workspace.node? place with
  | some .directory => .error .isDirectory
  | _ => .ok (workspace.put place (.file content))

end Workspace

/-- Why a text cannot be read from a file. -/
inductive ReadFault where
  | access (fault : AccessFault)
  | notText
  deriving DecidableEq

/-- The UTF-8 text of a file, every line end being a line feed. -/
def Workspace.readText (workspace : Workspace) (path : FilePath) : Except ReadFault String := do
  let content ← (workspace.read path).mapError .access
  match String.fromUTF8? content with
  | some text => .ok (Text.unifyNewlines text)
  | none => .error .notText

end SchemaGrammar
