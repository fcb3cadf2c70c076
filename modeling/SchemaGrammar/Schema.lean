import SchemaGrammar.TypeRef
set_option autoImplicit false

/-!
Schemas. A schema is a tree of modules; a module that names a grammar holds the definitions from
which that grammar is compiled. A definition is a record of fields or a union of variants. `Leaf`,
the delimiter and the repetition of a field say how the field is parsed.
-/

namespace SchemaGrammar

/-- The levels of left-associative precedence. -/
abbrev Level := UInt32

/-- The terminal a field matches. With neither a pattern nor a text the field refers to another
definition. The transform is carried along and means nothing here. -/
structure Leaf where
  pattern : Option String
  text : Option String
  transform : Option String
  deriving DecidableEq

/-- Whether a list needs at least one item. -/
structure Repetition where
  nonEmpty : Bool
  deriving DecidableEq

/-- A field of a record or a variant; a field without a name goes by its position. -/
structure Field where
  name : Option String
  type : TypeRef
  leaf : Option Leaf
  delimited : Option Field
  repetition : Option Repetition

structure Record where
  name : String
  fields : List Field
  precedence : Option Level
  extra : Bool
  language : Bool

structure Variant where
  name : String
  fields : List Field
  precedence : Option Level

structure TaggedUnion where
  name : String
  variants : List Variant
  extra : Bool
  language : Bool

inductive Definition where
  | record (spec : Record)
  | union (spec : TaggedUnion)

structure SchemaModule where
  name : String
  grammar : Option String
  definitions : List Definition
  modules : List SchemaModule

/-- What a terminal matches: a regular expression or a literal text. -/
inductive Terminal where
  | pattern (value : String)
  | text (value : String)
  deriving DecidableEq

/-- The terminal of a leaf; the pattern comes before the text. -/
def Leaf.terminal? (leaf : Leaf) : Option Terminal :=
  match leaf.pattern, leaf.text with
  | some pattern, _ => some (.pattern pattern)
  | none, some text => some (.text text)
  | none, none => none

namespace Field

/-- The terminal that a field carries itself. -/
def terminal? (field : Field) : Option Terminal := field.leaf.bind Leaf.terminal?

/-- What names the field in its rule: its name, or its position. -/
def identity (field : Field) (position : Nat) : String :=
  field.name.getD (toString position)

def nonEmpty (field : Field) : Bool :=
  match field.repetition with
  | some repetition => repetition.nonEmpty
  | none => false

end Field

namespace Definition

def name : Definition → String
  | .record spec => spec.name
  | .union spec => spec.name

/-- Extras may stand between any two tokens. -/
def extra : Definition → Bool
  | .record spec => spec.extra
  | .union spec => spec.extra

/-- The root of a grammar is the definition marked as its language. -/
def language : Definition → Bool
  | .record spec => spec.language
  | .union spec => spec.language

end Definition

end SchemaGrammar
