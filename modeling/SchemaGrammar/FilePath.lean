set_option autoImplicit false

/-!
Paths of files. A path keeps whether it is absolute and its segments; empty segments and those that
are a single point say nothing and are dropped, while a double point stays. The suffix of a name is
what starts at its last point, unless that is its first or its last character.
-/

namespace SchemaGrammar

/-- `root` is empty for a relative path; a path that begins with exactly two slashes keeps both. -/
structure FilePath where
  root : String
  segments : List String
  deriving DecidableEq

namespace FilePath

/-- The parts of a text between the occurrences of a character. -/
def splitAt (separator : Char) : List Char → List (List Char)
  | [] => [[]]
  | c :: rest =>
    if c = separator then [] :: splitAt separator rest
    else
      match splitAt separator rest with
      | [] => [[c]]
      | part :: parts => (c :: part) :: parts

/-- The slashes that an absolute path begins with. -/
def rootOf : List Char → String
  | '/' :: '/' :: '/' :: _ => "/"
  | '/' :: '/' :: _ => "//"
  | '/' :: _ => "/"
  | _ => ""

def isSegment (part : List Char) : Bool := !part.isEmpty && part != ['.']

def ofText (text : String) : FilePath :=
  ⟨rootOf text.toList, ((splitAt '/' text.toList).filter isSegment).map String.ofList⟩

def text (path : FilePath) : String :=
  if path.root.isEmpty && path.segments.isEmpty then "."
  else path.root ++ "/".intercalate path.segments

/-- No name can hold the character zero. -/
def isValid (path : FilePath) : Bool := !path.text.toList.contains '\x00'

def isAbsolute (path : FilePath) : Bool := !path.root.isEmpty

/-- The second path as seen from the first one. -/
def join (base path : FilePath) : FilePath :=
  if path.isAbsolute then path else ⟨base.root, base.segments ++ path.segments⟩

def child (path : FilePath) (name : String) : FilePath :=
  ⟨path.root, path.segments ++ [name]⟩

def parent (path : FilePath) : FilePath := ⟨path.root, path.segments.dropLast⟩

/-- The last segment, empty for a path without segments. -/
def name (path : FilePath) : String := path.segments.getLast?.getD ""

/-- The last point of a name and everything after it. -/
def suffix (path : FilePath) : String :=
  let letters := path.name.toList
  let afterPoint := letters.reverse.takeWhile (· != '.')
  if afterPoint.isEmpty || letters.length ≤ afterPoint.length + 1 then ""
  else String.ofList ('.' :: afterPoint.reverse)

/-- The segments without double points, each of which takes back the segment before it. -/
def withoutDoublePoints (segments : List String) : List String :=
  let next (done : List String) (segment : String) : List String :=
    if segment = ".." then done.dropLast else done ++ [segment]
  segments.foldl next []

/-- The absolute form of a path as seen from a directory. -/
def resolve (directory path : FilePath) : FilePath :=
  let full := directory.join path
  ⟨full.root, withoutDoublePoints full.segments⟩

end FilePath

end SchemaGrammar
