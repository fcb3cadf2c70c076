import SchemaGrammar.Draft
import SchemaGrammar.Schema.Rules
import SchemaGrammar.Text.Blank
import SchemaGrammar.TypeRef.Token
import SchemaGrammar.Value
set_option autoImplicit false

/-!
Compiling a grammar from its definitions. The rules of all definitions go into one draft in the
order of the document, the root's rule becomes the start rule, and the extras are the definitions
marked as such.
-/

namespace SchemaGrammar

/-- The one definition marked as the language. -/
def Definition.root (definitions : List Definition) : Except SchemaFault Definition :=
  match definitions.filter Definition.language with
  | [root] => .ok root
  | [] => .error .noRoot
  | roots => .error (.severalRoots (roots.map Definition.name))

namespace Grammar

/-- The name of a grammar is an identifier. -/
def checkedName : Value → Except SchemaFault String
  | .string name =>
    if name.toList.all Text.isBlank then .error .missingGrammarName
    else if TypeRef.isIdentifier name then .ok name
    else .error (.invalidGrammarName name)
  | _ => .error .missingGrammarName

/-- A fault of a whole grammar has no place. -/
def unlocated {Data : Type} (result : Except SchemaFault Data) : Except SchemaError Data :=
  result.mapError fun fault => ⟨fault, none⟩

/-- The draft with the rules of all definitions and its start rule. -/
def draft (name root : String) (definitions : List Definition) : Except SchemaError Draft :=
  match (Draft.new name).absorb id (Definition.rules definitions) with
  | (draft, .ok ()) => draft.fillStart root
  | (_, .error error) => .error error

/-- The names of the definitions marked as extras. -/
def extraNames (definitions : List Definition) : List String :=
  (definitions.filter Definition.extra).map Definition.name

def compile (name : Value) (definitions : List Definition) : Except SchemaError Grammar := do
  let name ← unlocated (checkedName name)
  let root ← unlocated (Definition.root definitions)
  let draft ← draft name root.name definitions
  let rules ← draft.finish
  pure ⟨name, rules, extraNames definitions⟩

end Grammar

/-- The grammar of a module; the modules around it and in it take no part. -/
def SchemaModule.compile (spec : SchemaModule) : Except SchemaError Grammar :=
  Grammar.compile (.string (spec.grammar.getD "")) spec.definitions

end SchemaGrammar
