import SchemaGrammar.FilePath
set_option autoImplicit false

/-!
Errors as they are reported: a kind, a message, and where in a schema the error lies. The place is
put in front of the message. `Diagnostic.text_of_no_context` says that without a context the text
is the message alone.
-/

namespace SchemaGrammar

/-- The file, the rule and the field at which something is wrong. -/
structure Context where
  file : Option FilePath
  rule : Option String
  field : Option String
  deriving DecidableEq

namespace Context

/-- The rule and, behind a point, the field; an empty rule names no place. -/
def ruleText (context : Context) : List String :=
  match context.rule with
  | none => []
  | some rule =>
    if rule.isEmpty then []
    else [rule ++ (context.field.map ("." ++ ·)).getD ""]

/-- The place as a text, empty when the context names none. -/
def text (context : Context) : String :=
  ": ".intercalate ((context.file.map FilePath.text).toList ++ context.ruleText)

/-- The context of a rule and one of its fields; there is none when nothing is named. -/
def ofRule (rule : String) (field : Option String) : Option Context :=
  if rule.isEmpty && field.isNone then none else some ⟨none, some rule, field⟩

/-- The context of whatever is known of a place; there is none when nothing is named. -/
def ofParts (file : Option FilePath) (rule field : Option String) : Option Context :=
  if (rule.getD "").isEmpty && field.isNone && file.isNone then none
  else some ⟨file, rule, field⟩

end Context

/-- The families of errors: errors in types are errors of the schema as well. -/
inductive DiagnosticKind where
  | general
  | schema
  | typeSyntax
  | manifest
  deriving DecidableEq

def DiagnosticKind.isSchema : DiagnosticKind → Bool
  | .schema | .typeSyntax => true
  | .general | .manifest => false

structure Diagnostic where
  kind : DiagnosticKind
  message : String
  context : Option Context
  deriving DecidableEq

namespace Diagnostic

/-- The place of the error, if it has a context. -/
def location (diagnostic : Diagnostic) : Option String := diagnostic.context.map Context.text

def withContext (diagnostic : Diagnostic) (context : Option Context) : Diagnostic :=
  { diagnostic with context }

/-- The message behind its place; a context that names no place adds nothing. -/
def text (diagnostic : Diagnostic) : String :=
  match diagnostic.location with
  | some place => if place.isEmpty then diagnostic.message else place ++ ": " ++ diagnostic.message
  | none => diagnostic.message

theorem text_of_no_context (kind : DiagnosticKind) (message : String) :
    text ⟨kind, message, none⟩ = message := rfl

end Diagnostic

end SchemaGrammar
