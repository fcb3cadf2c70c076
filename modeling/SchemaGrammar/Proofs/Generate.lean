import SchemaGrammar.Proofs.Modules
import SchemaGrammar.Proofs.Output
set_option autoImplicit false

/-!
What `generate` leaves behind. A `Plan` is everything that has to be found before anything is
written: the settings, the schema, its grammars and the directory they go to. Without a plan nothing
is printed or written. With one, every grammar is written to its own file and all other files stay,
unless a grammar has a text without a UTF-8 form: the files of the grammars before it are written
then, and its own is left empty.
-/

namespace SchemaGrammar

namespace Command

/-- What has to be found before anything is written. What the command line gives comes before what
the manifest says. -/
structure Plan (workspace : Workspace) (schema manifest output : Option FilePath) where
  settings : Option Manifest
  loaded : Command.manifest workspace manifest = .ok settings
  source : FilePath
  chosen : (schema.map .ok).or (settings.map Manifest.schemaFile) = some (.ok source)
  present : workspace.contains source = .ok true
  document : SchemaModule
  readable : workspace.readSchema source = .ok document
  grammars : List Grammar
  compiled : List.Forall₂ (fun spec grammar => spec.compile = .ok grammar)
    document.grammarModules grammars
  distinct : (grammars.map Grammar.name).Nodup
  directory : FilePath
  destined : ((output.map .ok).or (settings.map Manifest.outputDirectory)).getD
    (.ok (.ofText "grammars")) = .ok directory

variable {workspace : Workspace} {schema manifest output : Option FilePath}

/-- The indentation of the command line, of the manifest, or else two spaces. -/
def Plan.indent (plan : Plan workspace schema manifest output) (indent : Option Int) : Int :=
  (indent.or (plan.settings.map fun settings => settings.indent)).getD 2

theorem schemaFile_eq_ok_iff {settings : Option Manifest} {source : FilePath} :
    schemaFile schema settings = .ok source ↔
      (schema.map .ok).or (settings.map Manifest.schemaFile) = some (.ok source) := by
  rcases schema with _ | path <;> rcases settings with _ | settings <;>
    simp [schemaFile, mapError_eq_ok_iff]

theorem locate_eq_ok_iff {settings : Option Manifest} {source : FilePath} :
    locate workspace schema settings = .ok source ↔
      (schema.map .ok).or (settings.map Manifest.schemaFile) = some (.ok source) ∧
        workspace.contains source = .ok true := by
  unfold locate
  simp only [bind_eq_ok_iff, schemaFile_eq_ok_iff, mapError_eq_ok_iff]
  constructor
  · rintro ⟨path, chosen, found, looked, present⟩
    rcases found with _ | _
    · simp at present
    · cases present
      exact ⟨chosen, looked⟩
  · rintro ⟨chosen, present⟩
    exact ⟨source, chosen, true, present, rfl⟩

theorem outputDirectory_eq_ok_iff {settings : Option Manifest} {directory : FilePath} :
    outputDirectory output settings = .ok directory ↔
      ((output.map .ok).or (settings.map Manifest.outputDirectory)).getD
        (.ok (.ofText "grammars")) = .ok directory := by
  rcases output with _ | path <;> rcases settings with _ | settings <;>
    simp [outputDirectory, mapError_eq_ok_iff]

theorem compile_eq_ok_iff {verbose : Bool} {grammars : List Grammar} :
    (compile workspace verbose schema manifest).grammars = .ok grammars ↔
      ∃ settings source, Command.manifest workspace manifest = .ok settings ∧
        locate workspace schema settings = .ok source ∧
        workspace.grammars source = .ok grammars ∧
        (compile workspace verbose schema manifest).manifest = settings := by
  unfold compile
  rcases loaded : Command.manifest workspace manifest with refusal | settings
  · simp
  · rcases located : locate workspace schema settings with refusal | source
    · simp [located]
    · simp [located, mapError_eq_ok_iff]

theorem Plan.found (plan : Plan workspace schema manifest output) (verbose : Bool) :
    (compile workspace verbose schema manifest).grammars = .ok plan.grammars ∧
      (compile workspace verbose schema manifest).manifest = plan.settings := by
  have located := locate_eq_ok_iff.mpr ⟨plan.chosen, plan.present⟩
  have compiled := Workspace.grammars_eq_ok_iff.mpr
    ⟨plan.document, plan.readable, plan.compiled, plan.distinct⟩
  simp [compile, plan.loaded, located, compiled, Except.mapError]

theorem generate_of_plan (plan : Plan workspace schema manifest output) (verbose : Bool)
    (indent : Option Int) (writing : Writing)
    (wrote : write plan.directory (plan.indent indent) plan.grammars workspace = writing) :
    (generate workspace verbose schema manifest output indent).exit =
        (if writing.failure.isSome then 1 else 0) ∧
      (generate workspace verbose schema manifest output indent).failure = writing.failure ∧
      (generate workspace verbose schema manifest output indent).workspace = writing.workspace ∧
      (generate workspace verbose schema manifest output indent).output =
        if plan.grammars.isEmpty then printed "[yellow]No grammar modules found.[/yellow]"
        else "".intercalate (writing.written.map (writtenLine plan.directory)) := by
  obtain ⟨compiled, settings⟩ := plan.found verbose
  have destined := outputDirectory_eq_ok_iff.mpr plan.destined
  have width : indentation indent plan.settings = plan.indent indent := by
    rcases indent with _ | indent <;> rcases same : plan.settings with _ | settings <;>
      simp [indentation, Plan.indent, same]
  unfold generate
  simp only [compiled, settings, destined, width, wrote, bind, Except.bind, pure, Except.pure]
  rcases failed : writing.failure with _ | failure
  · simp
  · -- Writing no grammars cannot fail, so the notice that there are none is not printed.
    have several : plan.grammars.isEmpty = false := by
      rw [Bool.eq_false_iff]
      intro none
      rw [List.isEmpty_iff.mp none] at wrote
      subst wrote
      simp [write] at failed
    simp [refused, Refusal.failure?, several]

/-- What a run makes of its plan. -/
structure Plan.Fulfilled (plan : Plan workspace schema manifest output) (indent : Option Int)
    (outcome : Outcome) : Prop where
  /-- There is one grammar for each module that names one, in the order of the modules. -/
  names : plan.grammars.map Grammar.name = plan.document.grammarModules.map SchemaModule.grammarName
  files : ∀ grammar ∈ plan.grammars, grammar.file plan.directory =
    ⟨plan.directory.root, plan.directory.segments ++ [grammar.name, Grammar.fileName]⟩
  places : ∀ grammar ∈ plan.grammars, grammar.place workspace plan.directory =
    workspace.destination plan.directory ++ [grammar.name, Grammar.fileName]
  apart : (plan.grammars.map (Grammar.place workspace plan.directory)).Nodup
  failure : outcome.failure =
    if plan.grammars.all fun grammar => Text.isEncodable (grammar.fileText (plan.indent indent)) then
      none
    else some .notEncodable
  exit : outcome.exit = if outcome.failure.isSome then 1 else 0
  printed : outcome.output =
    if plan.grammars.isEmpty then printed "[yellow]No grammar modules found.[/yellow]"
    else "".intercalate
      ((Grammar.encodable (plan.indent indent) plan.grammars).map (writtenLine plan.directory))
  written : Written workspace plan.directory (plan.indent indent) plan.grammars outcome.workspace
  unchanged : ∀ place, (∀ grammar ∈ plan.grammars, place ≠ grammar.place workspace plan.directory) →
    outcome.workspace.file? place = workspace.file? place

theorem Plan.identifiers (plan : Plan workspace schema manifest output) :
    ∀ grammar ∈ plan.grammars, TypeRef.isIdentifier grammar.name = true := by
  intro grammar listed
  have compiled := plan.compiled
  obtain ⟨index, bound, rfl⟩ := List.getElem_of_mem listed
  have here := compiled.get (by rw [compiled.length_eq]; exact bound) bound
  exact (SchemaModule.name_of_compile here).2

/-- Every file of the plan can be written, if it were the only one. -/
def Plan.Creatable (plan : Plan workspace schema manifest output) (indent : Option Int) : Prop :=
  ∀ grammar ∈ plan.grammars, ∃ next,
    workspace.saveGrammar plan.directory (plan.indent indent) grammar = .ok next

/-- What is shown differs in the errors alone. -/
theorem Plan.Fulfilled.shown {plan : Plan workspace schema manifest output} {indent : Option Int}
    {outcome : Outcome} (fulfilled : plan.Fulfilled indent outcome) :
    plan.Fulfilled indent (shown outcome) where
  names := fulfilled.names
  files := fulfilled.files
  places := fulfilled.places
  apart := fulfilled.apart
  failure := fulfilled.failure
  exit := fulfilled.exit
  printed := fulfilled.printed
  written := fulfilled.written
  unchanged := fulfilled.unchanged

theorem run_generate (workspace : Workspace) (verbose : Bool)
    (schema manifest output : Option FilePath) (indent : Option Int) :
    run ⟨verbose, .generate schema manifest output indent⟩ workspace =
      shown (generate workspace verbose schema manifest output indent) := rfl

theorem Plan.fulfilled (plan : Plan workspace schema manifest output) (verbose : Bool)
    (indent : Option Int) (creatable : plan.Creatable indent) :
    plan.Fulfilled indent (run ⟨verbose, .generate schema manifest output indent⟩ workspace) := by
  have admitted : ∀ grammar ∈ plan.grammars, workspace.Admits plan.directory grammar := by
    intro grammar listed
    obtain ⟨next, saved⟩ := creatable grammar listed
    rw [Workspace.saveGrammar_eq] at saved
    exact (Workspace.save_eq_ok saved).1
  obtain ⟨list, failure, written⟩ :=
    write_spec plan.directory (plan.indent indent) plan.identifiers plan.distinct admitted
  obtain ⟨exit, failed, left, lines⟩ := generate_of_plan plan verbose indent _ rfl
  rw [list] at lines
  rw [← left] at written
  rw [run_generate]
  apply Plan.Fulfilled.shown
  constructor
  case names => exact SchemaModule.names_of_forall₂ plan.compiled
  case files =>
    intro grammar listed
    rw [grammar.file_eq plan.directory (plan.identifiers grammar listed)]
    simp [FilePath.child]
  case places =>
    intro grammar listed
    exact grammar.place_eq workspace plan.directory (plan.identifiers grammar listed)
  case apart => exact Grammar.nodup_places plan.identifiers plan.distinct
  case failure => exact failed.trans failure
  case exit =>
    rw [← failed] at exit
    exact exit
  case printed => exact lines
  case written => exact written
  case unchanged => exact fun place apart => written.unchanged apart

end Command

end SchemaGrammar
