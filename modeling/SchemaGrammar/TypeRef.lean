set_option autoImplicit false

/-!
Declared types as a schema writes them: a path of names with type arguments, or a tuple. A few
names of one segment are wrappers: they say that a field is optional, that it is a list, or only
that it is reached through an indirection.
-/

namespace SchemaGrammar

/-- A type with an empty path is the tuple of its arguments. -/
structure TypeRef where
  path : List String
  args : List TypeRef
  deriving Inhabited

/-- What a wrapper around a type means for the grammar. -/
inductive Wrapper where
  | optional
  | list
  | indirect
  deriving DecidableEq

/-- The wrapper that a name stands for. -/
def Wrapper.ofName? : String → Option Wrapper
  | "Option" | "Optional" => some .optional
  | "Vec" | "List" => some .list
  | "Box" | "Indirect" => some .indirect
  | _ => none

namespace TypeRef

def isTuple (type : TypeRef) : Bool := type.path.isEmpty

/-- The name of a type that is a single segment without arguments. -/
def bareName? (type : TypeRef) : Option String :=
  match type.path, type.args with
  | [name], [] => some name
  | _, _ => none

def isBare (type : TypeRef) : Bool := type.bareName?.isSome

/-- The wrapper named by the outermost constructor; a qualified name is never one. -/
def wrapper? (type : TypeRef) : Option Wrapper :=
  match type.path with
  | [name] => Wrapper.ofName? name
  | _ => none

mutual

/-- The written form: tuples in parentheses, segments joined by a double colon, arguments in angle
brackets. -/
def text : TypeRef → String
  | ⟨[], args⟩ => "(" ++ ", ".intercalate (texts args) ++ ")"
  | ⟨path, []⟩ => "::".intercalate path
  | ⟨path, args⟩ => "::".intercalate path ++ "<" ++ ", ".intercalate (texts args) ++ ">"

def texts : List TypeRef → List String
  | [] => []
  | type :: rest => text type :: texts rest

end

end TypeRef

end SchemaGrammar
