import SchemaGrammar.Schema.Compile
set_option autoImplicit false

/-!
The grammars of a tree of modules. Modules that name a grammar are taken from the inside out: the
modules in a module come before it, in their order. Each of them owns the name of its grammar.
-/

namespace SchemaGrammar

namespace SchemaModule

mutual

/-- The modules that name a grammar, each after those inside it. -/
def grammarModules : SchemaModule → List SchemaModule
  | ⟨name, grammar, definitions, modules⟩ =>
    grammarModulesIn modules ++
      if grammar.isSome then [⟨name, grammar, definitions, modules⟩] else []

def grammarModulesIn : List SchemaModule → List SchemaModule
  | [] => []
  | spec :: rest => grammarModules spec ++ grammarModulesIn rest

end

/-- The name under which a module's grammar is kept. -/
def grammarName (spec : SchemaModule) : String := spec.grammar.getD ""

/-- The module before this one that owns the name of its grammar. -/
def owner? (earlier : List SchemaModule) (spec : SchemaModule) : Option SchemaModule :=
  earlier.find? fun other => other.grammarName == spec.grammarName

end SchemaModule

namespace SchemaError

/-- The error with its file. An error without a place gets the module as its rule. -/
def inFile (file : FilePath) (spec : SchemaModule) (error : SchemaError) : SchemaError :=
  let context := error.context.getD ⟨none, some spec.name, none⟩
  { error with context := some { context with file := some file } }

end SchemaError

namespace SchemaModule

/-- The grammar of a module in a file, its name being new. -/
def compileIn (file : FilePath) (earlier : List SchemaModule) (spec : SchemaModule) :
    Except SchemaError Grammar :=
  match spec.owner? earlier with
  | some owner =>
    let place : Context := ⟨some file, some spec.name, none⟩
    .error ⟨.duplicateGrammar spec.grammarName owner.name spec.name, some place⟩
  | none => spec.compile.mapError (SchemaError.inFile file spec)

/-- The grammars of modules that follow others, up to the first error. -/
def compileAll (file : FilePath) (earlier : List SchemaModule) :
    List SchemaModule → Except SchemaError (List Grammar)
  | [] => .ok []
  | spec :: rest => do
    let grammar ← spec.compileIn file earlier
    let grammars ← compileAll file (earlier ++ [spec]) rest
    pure (grammar :: grammars)

/-- The grammars of a whole schema. -/
def grammars (file : FilePath) (schema : SchemaModule) : Except SchemaError (List Grammar) :=
  compileAll file [] schema.grammarModules

end SchemaModule

end SchemaGrammar
