import SchemaGrammar.Checked
import SchemaGrammar.Schema
import SchemaGrammar.TypeShape
set_option autoImplicit false

/-!
Reading schemas from values. Every kind of data has fixed keys; a key that is missing takes its
default where it has one, and an unknown key is a problem except in a list policy and a type shape.
A type may be given by its written form or by its parts. Modules, fields and types are nested in
each other only as far as there is room: a module and a delimiter take up one level each, and so
does a type among the arguments of another one; a field in a list of fields, a delimiter of a list
policy and a type that belongs to a field or a shape take up two.
-/

namespace SchemaGrammar

open Checked

/-- Levels take up 32 bits. -/
def greatestLevel : Nat := 0xFFFFFFFF

/-- The level that an integer is, if it lies in the range. -/
def levelOfInt (value : Int) : Checked Level :=
  if value < 0 then fault (.tooSmall 0)
  else if greatestLevel < value then fault (.tooLarge greatestLevel)
  else .valid (UInt32.ofNat value.toNat)

namespace TypeRef

/-- The readings of a type given by its parts. -/
def reading : Value → Nat → Reader.Reading TypeRef :=
  Reader.recursive .notTuple fun room entries? =>
    within 1 room fun room =>
      match entries? with
      | none => fault (.notModel "TypeRef")
      | some entries =>
        Reader.closed ["path", "args"] entries.table <|
          TypeRef.mk
            <$> Reader.required "path" pathReader entries.table
            <*> Reader.defaultingPart "args" room [] (·.many) entries
where
  pathReader : Reader (List String)
    | .list items => Checked.items (items.map Reader.string)
    | _ => fault .notTuple

def readerIn (room : Nat) : Reader TypeRef := fun value => (reading value room).alone

def reader : Reader TypeRef := readerIn deepestLevel

/-- A type given by its written form or by its parts. -/
def declaredReader (room : Nat) : Reader TypeRef
  | .string text =>
    match parse text with
    | .ok type => within 2 room fun _ => .valid type
    | .error error => fault (.violation (.type error))
  | value => Reader.owned readerIn room value

end TypeRef

namespace TypeShape

def kindReader : Reader ShapeKind
  | .string text =>
    match ShapeKind.ofName? text with
    | some kind => .valid kind
    | none => fault (.notOneOf "'direct', 'optional' or 'list'")
  | _ => fault (.notOneOf "'direct', 'optional' or 'list'")

def reader : Reader TypeShape :=
  Reader.model "TypeShape" fun table =>
    TypeShape.mk
      <$> Reader.required "kind" kindReader table
      <*> Reader.required "target" (Reader.owned TypeRef.readerIn deepestLevel) table

end TypeShape

namespace Leaf

/-- A leaf is one terminal at most. -/
def violation? (leaf : Leaf) : Option Violation :=
  if leaf.pattern.isSome && leaf.text.isSome then some .patternAndText else none

def reader : Reader Leaf := fun value =>
  obeying violation? <|
    Reader.closedModel "LeafMeta" ["pattern", "text", "transform"] (fun table =>
      Leaf.mk
        <$> Reader.optional "pattern" Reader.string table
        <*> Reader.optional "text" Reader.string table
        <*> Reader.optional "transform" Reader.string table) value

end Leaf

def Repetition.reader : Reader Repetition :=
  Reader.closedModel "RepeatMeta" ["non_empty"] fun table =>
    Repetition.mk <$> Reader.defaulting "non_empty" false Reader.boolean table

namespace Field

/-- The readings of a field. -/
def reading : Value → Nat → Reader.Reading Field :=
  Reader.recursive .notList fun room entries? =>
    within 1 room fun room =>
      match entries? with
      | none => fault (.notModel "FieldSpec")
      | some entries =>
        Reader.closed ["name", "type", "leaf", "delimited", "repeat"] entries.table <|
          Field.mk
            <$> Reader.optional "name" Reader.string entries.table
            <*> Reader.required "type" (TypeRef.declaredReader room) entries.table
            <*> Reader.optional "leaf" Leaf.reader entries.table
            <*> Reader.optionalPart "delimited" room entries
            <*> Reader.optional "repeat" Repetition.reader entries.table

def readerIn (room : Nat) : Reader Field := fun value => (reading value room).alone

def reader : Reader Field := readerIn deepestLevel

/-- The names that occur more than once, in the order of their code points. -/
def repeated (names : List String) : List String :=
  ((names.filter fun name => 1 < names.count name).eraseDups).mergeSort (· ≤ ·)

/-- Either all fields have names or none has one, and no name occurs twice. -/
def violation? (fields : List Field) : Option Violation :=
  let named := fields.filterMap Field.name
  if !named.isEmpty && named.length != fields.length then some .mixedFields
  else
    let duplicates := repeated named
    if duplicates.isEmpty then none else some (.duplicateFields duplicates)

def listReader (room : Nat) : Reader (List Field) := fun value =>
  obeying violation? (Reader.list (Reader.owned readerIn room) value)

end Field

/-- The policy of a list: its delimiter and whether it needs an item. -/
structure ListPolicy where
  delimiter : Option Field
  nonEmpty : Bool

def ListPolicy.reader : Reader ListPolicy :=
  Reader.model "ListMeta" fun table =>
    ListPolicy.mk
      <$> Reader.optional "delimiter" (Reader.owned Field.readerIn deepestLevel) table
      <*> Reader.defaulting "non_empty" false Reader.looseBoolean table

def Field.listPolicy (field : Field) : ListPolicy := ⟨field.delimited, field.nonEmpty⟩

/-- The key under which a level of precedence stands. -/
def precedenceReader : Table → Checked (Option Level) :=
  Reader.optional "prec_left" fun value => andThen levelOfInt (Reader.integer value)

namespace Record

def keys : List String := ["kind", "name", "fields", "prec_left", "extra", "language"]

def readerIn (room : Nat) : Reader Record :=
  Reader.closedModel "RecordSpec" keys fun table =>
    (fun () => Record.mk)
      <$> Reader.defaulting "kind" () (Reader.literal "record") table
      <*> Reader.required "name" Reader.string table
      <*> Reader.defaulting "fields" [] (Field.listReader room) table
      <*> precedenceReader table
      <*> Reader.defaulting "extra" false Reader.boolean table
      <*> Reader.defaulting "language" false Reader.boolean table

def reader : Reader Record := readerIn deepestLevel

end Record

namespace Variant

def readerIn (room : Nat) : Reader Variant :=
  Reader.closedModel "VariantSpec" ["name", "fields", "prec_left"] fun table =>
    Variant.mk
      <$> Reader.required "name" Reader.string table
      <*> Reader.defaulting "fields" [] (Field.listReader room) table
      <*> precedenceReader table

def reader : Reader Variant := readerIn deepestLevel

end Variant

namespace TaggedUnion

def keys : List String := ["kind", "name", "variants", "extra", "language"]

/-- No two variants have one name. -/
def violation? (variants : List Variant) : Option Violation :=
  let duplicates := Field.repeated (variants.map Variant.name)
  if duplicates.isEmpty then none else some (.duplicateVariants duplicates)

/-- A union has at least one variant. -/
def variantsReader (room : Nat) : Reader (List Variant) := fun value =>
  obeying violation? <|
    andThen (fun variants => if variants.isEmpty then fault .tooShort else .valid variants)
      (Reader.list (Variant.readerIn room) value)

def readerIn (room : Nat) : Reader TaggedUnion :=
  Reader.closedModel "UnionSpec" keys fun table =>
    (fun () => TaggedUnion.mk)
      <$> Reader.defaulting "kind" () (Reader.literal "union") table
      <*> Reader.required "name" Reader.string table
      <*> Reader.required "variants" (variantsReader room) table
      <*> Reader.defaulting "extra" false Reader.boolean table
      <*> Reader.defaulting "language" false Reader.boolean table

def reader : Reader TaggedUnion := readerIn deepestLevel

end TaggedUnion

namespace Definition

/-- A definition says by its kind what it is. -/
def readerIn (room : Nat) : Reader Definition
  | .table entries =>
    match entries.lookup "kind" with
    | none => fault (.noTag "kind")
    | some tag =>
      match tag with
      | .string "record" =>
        inside (.key "record") ((Record.readerIn room (.table entries)).map .record)
      | .string "union" =>
        inside (.key "union") ((TaggedUnion.readerIn room (.table entries)).map .union)
      | _ => fault (.unknownTag "kind" tag.label ["record", "union"])
  | _ => fault .notTagged

def reader : Reader Definition := readerIn deepestLevel

end Definition

/-- The name of a grammar is an identifier. -/
def grammarNameReader : Reader String
  | .string text =>
    if !Text.isEncodable text then fault .notUnicode
    else if TypeRef.isIdentifier text then .valid text
    else fault .badIdentifier
  | _ => fault .notString

namespace SchemaModule

/-- The readings of a module. -/
def reading : Value → Nat → Reader.Reading SchemaModule :=
  Reader.recursive .notList fun room entries? =>
    within 1 room fun room =>
      match entries? with
      | none => fault (.notModel "GrammarModule")
      | some entries =>
        Reader.closed ["name", "grammar", "definitions", "modules"] entries.table <|
          SchemaModule.mk
            <$> Reader.defaulting "name" "root" Reader.string entries.table
            <*> Reader.optional "grammar" grammarNameReader entries.table
            <*> Reader.defaulting "definitions" [] (Reader.list (Definition.readerIn room))
              entries.table
            <*> Reader.defaultingPart "modules" room [] (·.many) entries

def readerIn (room : Nat) : Reader SchemaModule := fun value => (reading value room).alone

def reader : Reader SchemaModule := readerIn deepestLevel

end SchemaModule

end SchemaGrammar
