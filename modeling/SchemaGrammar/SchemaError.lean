import SchemaGrammar.Diagnostic
import SchemaGrammar.Problem
set_option autoImplicit false

/-!
Errors of a schema: everything that can be wrong with its types, its definitions, its grammars and
its document, and the place where it is wrong.
-/

namespace SchemaGrammar

/-- Why a schema cannot be compiled. -/
inductive SchemaFault where
  | wrapperArity (wrapper : String) (type : TypeRef)
  | optionalList (type : TypeRef)
  | noDefinitionName (type : TypeRef)
  | leafOnList (type : TypeRef)
  | listSettings (type : TypeRef)
  | duplicateRule (name grammar : String) (owner : Option String)
  | rootWithoutRule (root : String)
  | noStartRule (grammar : String)
  | missingGrammarName
  | invalidGrammarName (name : String)
  | noRoot
  | severalRoots (names : List String)
  | unsupportedFormat (suffix : String)
  | unreadable (reason : String)
  | notTable
  | invalid (problems : List Problem)
  | duplicateGrammar (grammar owner module : String)

/-- One line for each problem: its place, the steps joined by points, and what is wrong. -/
def Problem.line (problem : Problem) : String :=
  "  - " ++ ".".intercalate (problem.place.map Step.text) ++ ": " ++ problem.fault.message .value

def SchemaFault.message : SchemaFault → String
  | .wrapperArity wrapper type =>
    s!"'{wrapper}' takes exactly one type argument, got '{type.text}'"
  | .optionalList type =>
    s!"'{type.text}' is not supported: lists encode their own emptiness, " ++
      "use a list field with repeat non_empty = false instead"
  | .noDefinitionName type =>
    s!"Unexpected type '{type.text}': expected a definition name, " ++
      "or a leaf annotation with a pattern or text"
  | .leafOnList type =>
    s!"List field '{type.text}' cannot carry a leaf pattern or text; " ++
      "its element type must be a definition"
  | .listSettings type =>
    s!"'delimited' and 'repeat' only apply to list fields, not '{type.text}'"
  | .duplicateRule name grammar owner =>
    let owner := owner.getD "the start rule"
    s!"Duplicate rule '{name}' in grammar '{grammar}': already defined by {owner}"
  | .rootWithoutRule root => s!"Root definition '{root}' produced no rule"
  | .noStartRule grammar => s!"Grammar '{grammar}' has no start rule"
  | .missingGrammarName => "Each grammar must have a non-empty name"
  | .invalidGrammarName name =>
    s!"Invalid grammar name '{name}': expected an identifier " ++
      "(letters, digits and underscores, not starting with a digit)"
  | .noRoot => "Each grammar must mark its root definition with 'language = true'"
  | .severalRoots names =>
    "Only one definition may be marked 'language = true', found: " ++ ", ".intercalate names
  | .unsupportedFormat suffix =>
    s!"Unsupported schema format '{suffix}', expected one of .toml, .json"
  | .unreadable reason => s!"Cannot read schema: {reason}"
  | .notTable => "Schema document must be a table"
  | .invalid problems =>
    "Schema validation failed:\n" ++ "\n".intercalate (problems.map Problem.line)
  | .duplicateGrammar grammar owner module =>
    s!"Duplicate grammar name '{grammar}' (modules {owner}, {module})"

structure SchemaError where
  fault : SchemaFault
  context : Option Context

namespace SchemaError

/-- A fault at a rule, and at one of its fields. -/
def atRule (rule : String) (field : Option String) (fault : SchemaFault) : SchemaError :=
  ⟨fault, Context.ofRule rule field⟩

/-- A fault of a file. -/
def atFile (file : FilePath) (fault : SchemaFault) : SchemaError :=
  ⟨fault, some ⟨some file, none, none⟩⟩

def diagnostic (error : SchemaError) : Diagnostic :=
  ⟨.schema, error.fault.message, error.context⟩

end SchemaError

end SchemaGrammar
