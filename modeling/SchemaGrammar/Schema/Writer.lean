import SchemaGrammar.Schema.Reader
set_option autoImplicit false

/-!
Writing schemas as values. Every key is there, in the order of the declaration: what is missing is
written as `null`, and a type by its parts.
-/

namespace SchemaGrammar

namespace Value

/-- Something or `null`. -/
def ofOption {Data : Type} (write : Data → Value) : Option Data → Value
  | some data => write data
  | none => .null

def ofStrings (texts : List String) : Value := .list (texts.map .string)

end Value

namespace TypeRef

mutual

def toValue : TypeRef → Value
  | ⟨path, args⟩ => .table [("path", .ofStrings path), ("args", .list (toValues args))]

def toValues : List TypeRef → List Value
  | [] => []
  | type :: rest => toValue type :: toValues rest

end

end TypeRef

def TypeShape.toValue (shape : TypeShape) : Value :=
  .table [("kind", .string shape.kind.name), ("target", shape.target.toValue)]

def Leaf.toValue (leaf : Leaf) : Value :=
  .table
    [("pattern", .ofOption .string leaf.pattern), ("text", .ofOption .string leaf.text),
      ("transform", .ofOption .string leaf.transform)]

def Repetition.toValue (repetition : Repetition) : Value :=
  .table [("non_empty", .bool repetition.nonEmpty)]

namespace Field

def toValue : Field → Value
  | ⟨name, type, leaf, delimited, repetition⟩ =>
    let delimiter : Value :=
      match delimited with
      | some delimiter => delimiter.toValue
      | none => .null
    .table
      [("name", .ofOption .string name), ("type", type.toValue),
        ("leaf", .ofOption Leaf.toValue leaf), ("delimited", delimiter),
        ("repeat", .ofOption Repetition.toValue repetition)]

def listValue (fields : List Field) : Value := .list (fields.map toValue)

end Field

def ListPolicy.toValue (policy : ListPolicy) : Value :=
  .table
    [("delimiter", .ofOption Field.toValue policy.delimiter),
      ("non_empty", .bool policy.nonEmpty)]

/-- A level of precedence or `null`. -/
def precedenceValue (level : Option Level) : Value :=
  .ofOption (fun level => .integer level.toNat) level

def Record.toValue (spec : Record) : Value :=
  .table
    [("kind", .string "record"), ("name", .string spec.name),
      ("fields", Field.listValue spec.fields), ("prec_left", precedenceValue spec.precedence),
      ("extra", .bool spec.extra), ("language", .bool spec.language)]

def Variant.toValue (variant : Variant) : Value :=
  .table
    [("name", .string variant.name), ("fields", Field.listValue variant.fields),
      ("prec_left", precedenceValue variant.precedence)]

def TaggedUnion.toValue (spec : TaggedUnion) : Value :=
  .table
    [("kind", .string "union"), ("name", .string spec.name),
      ("variants", .list (spec.variants.map Variant.toValue)), ("extra", .bool spec.extra),
      ("language", .bool spec.language)]

def Definition.toValue : Definition → Value
  | .record spec => spec.toValue
  | .union spec => spec.toValue

namespace SchemaModule

mutual

def toValue : SchemaModule → Value
  | ⟨name, grammar, definitions, modules⟩ =>
    .table
      [("name", .string name), ("grammar", .ofOption .string grammar),
        ("definitions", .list (definitions.map Definition.toValue)),
        ("modules", .list (toValues modules))]

def toValues : List SchemaModule → List Value
  | [] => []
  | spec :: rest => toValue spec :: toValues rest

end

end SchemaModule

end SchemaGrammar
