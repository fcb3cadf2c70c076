import SchemaGrammar.SchemaError
set_option autoImplicit false

/-!
The shape of a declared type: a direct reference, an optional one, or a list. `shape` looks
through any number of indirections outside and inside the wrapper; what is left as the target is
no indirection.
-/

namespace SchemaGrammar

inductive ShapeKind where
  | direct
  | optional
  | list
  deriving DecidableEq

def ShapeKind.name : ShapeKind → String
  | .direct => "direct"
  | .optional => "optional"
  | .list => "list"

def ShapeKind.ofName? : String → Option ShapeKind
  | "direct" => some .direct
  | "optional" => some .optional
  | "list" => some .list
  | _ => none

/-- The target of a direct reference is the type itself, otherwise the wrapped type. -/
structure TypeShape where
  kind : ShapeKind
  target : TypeRef

namespace TypeRef

/-- The only argument of a wrapper. -/
def singleArgument (wrapper : String) (type : TypeRef) : Except SchemaFault TypeRef :=
  match type.args with
  | [argument] => .ok argument
  | _ => .error (.wrapperArity wrapper type)

/-- The type inside any number of indirections. -/
def withoutIndirection : TypeRef → Except SchemaFault TypeRef
  | ⟨path, args⟩ =>
    match TypeRef.wrapper? ⟨path, args⟩, args with
    | some .indirect, [argument] => withoutIndirection argument
    | some .indirect, _ => .error (.wrapperArity (path.headD "") ⟨path, args⟩)
    | _, _ => .ok ⟨path, args⟩

/-- The shape of a type. -/
def shape (type : TypeRef) : Except SchemaFault TypeShape := do
  let outer ← type.withoutIndirection
  let element : Except SchemaFault TypeRef := do
    let argument ← outer.singleArgument (outer.path.headD "")
    argument.withoutIndirection
  match outer.wrapper? with
  | some .optional =>
    let inner ← element
    if inner.wrapper? = some .list then .error (.optionalList type)
    else .ok ⟨.optional, inner⟩
  | some .list =>
    let inner ← element
    .ok ⟨.list, inner⟩
  | _ => .ok ⟨.direct, outer⟩

/-- The name of the definition that a type refers to; qualified names refer to none. -/
def definitionName (type : TypeRef) : Except SchemaFault String := do
  let target ← type.withoutIndirection
  match target.bareName? with
  | some name => .ok name
  | none => .error (.noDefinitionName type)

end TypeRef

end SchemaGrammar
