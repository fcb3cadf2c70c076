import SchemaGrammar.Text.Surrogate
import SchemaGrammar.TypeRef.Parser
set_option autoImplicit false

/-!
Problems found while typed data are read from a document: what is wrong and where. The place is the
list of keys, positions and tags that leads to the value. A few problems are worded differently
when the document was a JSON text that is read directly. What a message takes from the data is shown
with replacement characters where it is no Unicode text.
-/

namespace SchemaGrammar

/-- One step on the way to a value. -/
inductive Step where
  | key (name : String)
  | index (position : Nat)
  deriving DecidableEq

def Step.text : Step → String
  | .key name => name
  | .index position => toString position

/-- How the data came: as a value in memory or as a JSON text. -/
inductive Origin where
  | value
  | json
  deriving DecidableEq

/-- The rules that hold between the parts of well-typed data. -/
inductive Violation where
  | patternAndText
  | mixedFields
  | duplicateFields (names : List String)
  | duplicateVariants (names : List String)
  | type (error : TypeRef.SyntaxError)
  deriving DecidableEq

def Violation.message : Violation → String
  | .patternAndText => "leaf takes either 'pattern' or 'text', not both"
  | .mixedFields => "fields must be either all named or all positional"
  | .duplicateFields names => "duplicate field names: " ++ ", ".intercalate names
  | .duplicateVariants names => "duplicate variant names: " ++ ", ".intercalate names
  | .type error => error.message

/-- What is wrong with a value. -/
inductive Fault where
  | missing
  | unknownKey
  | notString
  | notUnicode
  | badIdentifier
  | notInteger
  | fractional
  | notFinite
  | unreadableInteger
  | longInteger
  | tooSmall (least : Nat)
  | tooLarge (greatest : Nat)
  | notBoolean
  | unreadableBoolean
  | notList
  | notTuple
  | notTable
  | tooShort
  | notModel (model : String)
  | notTagged
  | noTag (key : String)
  | unknownTag (key tag : String) (expected : List String)
  | notLiteral (expected : String)
  | notOneOf (expected : String)
  | violation (broken : Violation)
  | tooDeep
  | unreadableText
  deriving DecidableEq

structure Problem where
  place : List Step
  fault : Fault
  deriving DecidableEq

def Problem.inside (step : Step) (problem : Problem) : Problem :=
  { problem with place := step :: problem.place }

/-- The name of a kind of problem. -/
def Fault.kind (origin : Origin) : Fault → String
  | .missing => "missing"
  | .unknownKey => "extra_forbidden"
  | .notString => "string_type"
  | .notUnicode => "string_unicode"
  | .badIdentifier => "string_pattern_mismatch"
  | .notInteger => "int_type"
  | .fractional => "int_from_float"
  | .notFinite => "finite_number"
  | .unreadableInteger => "int_parsing"
  | .longInteger => "int_parsing_size"
  | .tooSmall _ => "greater_than_equal"
  | .tooLarge _ => "less_than_equal"
  | .notBoolean => "bool_type"
  | .unreadableBoolean => "bool_parsing"
  | .notList => "list_type"
  | .notTuple => "tuple_type"
  | .notTable => "dict_type"
  | .tooShort => "too_short"
  | .notModel _ => "model_type"
  | .notTagged => match origin with
    | .value => "model_attributes_type"
    | .json => "dict_type"
  | .noTag _ => "union_tag_not_found"
  | .unknownTag _ _ _ => "union_tag_invalid"
  | .notLiteral _ => "literal_error"
  | .notOneOf _ => "enum"
  | .violation _ => "value_error"
  | .tooDeep => "recursion_depth_exceeded"
  | .unreadableText => "json_invalid"

/-- A list of alternatives, each in quotes. -/
def quotedAlternatives (names : List String) : String :=
  ", ".intercalate (names.map fun name => "'" ++ name ++ "'")

def Fault.message (origin : Origin) : Fault → String
  | .missing => "Field required"
  | .unknownKey => "Extra inputs are not permitted"
  | .notString => "Input should be a valid string"
  | .notUnicode =>
    "Input should be a valid string, unable to parse raw data as a unicode string"
  | .badIdentifier => "String should match pattern '^[A-Za-z_][A-Za-z0-9_]*$'"
  | .notInteger => "Input should be a valid integer"
  | .fractional => "Input should be a valid integer, got a number with a fractional part"
  | .notFinite => "Input should be a finite number"
  | .unreadableInteger =>
    "Input should be a valid integer, unable to parse string as an integer"
  | .longInteger => "Unable to parse input string as an integer, exceeded maximum size"
  | .tooSmall least => s!"Input should be greater than or equal to {least}"
  | .tooLarge greatest => s!"Input should be less than or equal to {greatest}"
  | .notBoolean => "Input should be a valid boolean"
  | .unreadableBoolean => "Input should be a valid boolean, unable to interpret input"
  | .notList => match origin with
    | .value => "Input should be a valid list"
    | .json => "Input should be a valid array"
  | .notTuple => match origin with
    | .value => "Input should be a valid tuple"
    | .json => "Input should be a valid array"
  | .notTable => match origin with
    | .value => "Input should be a valid dictionary"
    | .json => "Input should be an object"
  | .tooShort => "List should have at least 1 item after validation, not 0"
  | .notModel model => match origin with
    | .value => s!"Input should be a valid dictionary or instance of {model}"
    | .json => "Input should be an object"
  | .notTagged => match origin with
    | .value => "Input should be a valid dictionary or object to extract fields from"
    | .json => "Input should be an object"
  | .noTag key => s!"Unable to extract tag using discriminator '{key}'"
  | .unknownTag key tag expected =>
    s!"Input tag '{Text.withReplacements tag}' found using '{key}' " ++
      "does not match any of the expected tags: " ++ quotedAlternatives expected
  | .notLiteral expected => s!"Input should be '{expected}'"
  | .notOneOf expected => s!"Input should be {expected}"
  | .violation broken => "Value error, " ++ Text.withReplacements broken.message
  | .tooDeep => "Recursion error - maximum validation depth exceeded"
  | .unreadableText => "Invalid JSON"

end SchemaGrammar
