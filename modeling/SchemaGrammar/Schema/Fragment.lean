import SchemaGrammar.Emission
import SchemaGrammar.Schema
import SchemaGrammar.TypeShape
set_option autoImplicit false

/-!
The fragment of a rule that a field stands for. A field with a terminal of its own emits that
terminal under its path and refers to it; any other field refers to a definition. A list repeats
its item, which is always labelled with the field:

    without a delimiter    REPEAT(item), or REPEAT1(item)
    with a delimiter       CHOICE[BLANK, SEQ[item, REPEAT(SEQ[delimiter, item])]], or the SEQ alone

The delimiter of a list is a field itself, compiled before the item is looked at.
-/

namespace SchemaGrammar

/-- An item, any number of times. -/
def Rule.repetition (item : Rule) (delimiter : Option Rule) (nonEmpty : Bool) : Rule :=
  match delimiter, nonEmpty with
  | none, true => .repeat1 item
  | none, false => .repeat item
  | some delimiter, true => .seq [item, .repeat (.seq [delimiter, item])]
  | some delimiter, false => .optional (.seq [item, .repeat (.seq [delimiter, item])])

/-- The list of a definition that a field labels. -/
def TypeRef.listRule (element : TypeRef) (identity : String) (delimiter : Option Rule)
    (nonEmpty : Bool) : Except SchemaFault Rule := do
  let name ← element.definitionName
  pure (.repetition (.field identity (.symbol name)) delimiter nonEmpty)

def Terminal.rule : Terminal → Rule
  | .pattern value => .pattern value
  | .text value => .string value

namespace Field

/-- A reference to the terminal of a field, emitted under a path, or to the definition that the
target of its type names. -/
def leafRule (path source : String) (identity : Option String) (field : Field)
    (target : TypeRef) : Emission SchemaError Rule :=
  match field.terminal? with
  | some terminal => do
    Emission.emit ⟨path, terminal.rule, source⟩
    pure (.symbol path)
  | none => do
    let name ← Emission.located source identity target.definitionName
    pure (.symbol name)

/-- The shape of a field. A list carries no terminal, and only a list has a delimiter or a
repetition. -/
def shape (field : Field) : Except SchemaFault TypeShape := do
  let shape ← field.type.shape
  match shape.kind with
  | .list => if field.terminal?.isSome then .error (.leafOnList field.type) else .ok shape
  | .direct | .optional =>
    if field.delimited.isSome || field.repetition.isSome then .error (.listSettings field.type)
    else .ok shape

/-- The shape of a field and its fragment, which is not labelled yet unless it is a list. -/
def fragment (path source identity : String) : Field → Emission SchemaError (TypeShape × Rule)
  | ⟨name, type, leaf, delimited, repetition⟩ =>
    let field : Field := ⟨name, type, leaf, delimited, repetition⟩
    let delimiter : Emission SchemaError (Option Rule) :=
      match delimited with
      | none => pure none
      | some delimiter => do
        let (_, rule) ←
          delimiter.fragment (path ++ "_delimiter") source (identity ++ ".delimiter")
        pure (some rule)
    do
      let shape ← Emission.located source identity field.shape
      match shape.kind with
      | .list => do
        let delimiter ← delimiter
        let rule ←
          Emission.located source identity
            (shape.target.listRule identity delimiter field.nonEmpty)
        pure (shape, rule)
      | .direct | .optional => do
        let rule ← field.leafRule path source identity shape.target
        pure (shape, rule)

end Field

end SchemaGrammar
