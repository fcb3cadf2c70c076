import SchemaGrammar.Command
set_option autoImplicit false

/-!
The files that a run looks at. They become known one after the other: the manifest tells the schema,
and the schema the files that are written.
-/

namespace SchemaGrammar.Command

/-- The arguments that lead to the grammars of a command. -/
def sources : Action → Option (Option FilePath × Option FilePath)
  | .version => none
  | .generate schema manifest _ _ => some (schema, manifest)
  | .check schema manifest => some (schema, manifest)
  | .display schema _ _ => some (some schema, none)

/-- The files that the grammars of a command are written to. -/
def outputs (workspace : Workspace) : Action → List FilePath
  | .generate schema manifest output _ =>
    let compilation := compile workspace false schema manifest
    match compilation.grammars, outputDirectory output compilation.manifest with
    | .ok grammars, .ok output => grammars.map (Grammar.file output)
    | _, _ => []
  | _ => []

/-- The paths that a command leads to, as far as the workspace tells. -/
def paths (workspace : Workspace) (command : Command) : List FilePath :=
  match sources command.action with
  | none => []
  | some (schema, manifest) =>
    let current : FilePath := ⟨"/", workspace.current⟩
    let settings := (manifest.map current.resolve).getD (current.child Manifest.fileName)
    let schema :=
      match Command.manifest workspace manifest with
      | .ok manifest => (schemaFile schema manifest).toOption
      | .error _ => none
    settings :: schema.toList ++ outputs workspace command.action

/-- The places on the way from a place along some names. -/
def visited (place : Place) : List String → List Place
  | [] => []
  | name :: rest =>
    let next := if name = ".." then place.dropLast else place ++ [name]
    next :: visited next rest

/-- The places that a path leads through. -/
def placesOf (workspace : Workspace) (path : FilePath) : List Place :=
  visited (if path.isAbsolute then [] else workspace.current) path.segments

end SchemaGrammar.Command
