import Mathlib.Data.List.Forall2
import SchemaGrammar.Proofs.Faults
import SchemaGrammar.Proofs.Grammar
import SchemaGrammar.Proofs.Workspace
import SchemaGrammar.Schema.Document
set_option autoImplicit false

/-!
The grammars of a schema, module by module. They are there when every module that names a grammar
compiles by itself and no two of them name the same one. Otherwise the first module that offends
says why: another one before it owns the name, or it does not compile, and then its own error is
passed on with the file in front.
-/

namespace SchemaGrammar

/-- The error names no file. -/
def SchemaError.Unfiled (error : SchemaError) : Prop :=
  ∀ context ∈ error.context, context.file = none

theorem SchemaError.unfiled_atRule (rule : String) (field : Option String) (fault : SchemaFault) :
    (SchemaError.atRule rule field fault).Unfiled := by
  intro context known
  rw [SchemaError.atRule, Context.ofRule] at known
  split at known
  · cases known
  · cases known
    rfl

namespace Grammar

theorem unfiled_of_unlocated {Data : Type} {result : Except SchemaFault Data} {error : SchemaError}
    (failed : unlocated result = .error error) : error.Unfiled := by
  obtain ⟨fault, _, rfl⟩ := mapError_eq_error_iff.mp failed
  intro context known
  cases known

theorem unfiled_of_fillStart {root : String} {draft : Draft} {error : SchemaError}
    (failed : draft.fillStart root = .error error) : error.Unfiled := by
  unfold Draft.fillStart at failed
  split at failed
  · cases failed
  · cases failed
    exact SchemaError.unfiled_atRule _ _ _

theorem unfiled_of_finish {draft : Draft} {error : SchemaError}
    (failed : draft.finish = .error error) : error.Unfiled := by
  unfold Draft.finish at failed
  split at failed
  · cases failed
  · cases failed
    exact SchemaError.unfiled_atRule _ _ _

theorem unfiled_of_draft {name root : String} {definitions : List Definition} {error : SchemaError}
    (failed : draft name root definitions = .error error) : error.Unfiled := by
  obtain ⟨front, _, _, reached | ⟨entry, _, reached⟩⟩ :=
    Draft.absorb_cases id (Definition.rules definitions) (Draft.new name)
  · rw [draft, reached] at failed
    rcases finished : (Definition.rules definitions).result with fault | _
    · rw [finished] at failed
      cases failed
      obtain ⟨_, _, _, rfl, _⟩ := Definition.rules_placed definitions error finished
      exact SchemaError.unfiled_atRule _ _ _
    · rw [finished] at failed
      exact unfiled_of_fillStart failed
  · rw [draft, reached] at failed
    cases failed
    exact SchemaError.unfiled_atRule _ _ _

/-- Compiling a grammar takes no notice of the file that it comes from. -/
theorem unfiled_of_compile {name : Value} {definitions : List Definition} {error : SchemaError}
    (failed : compile name definitions = .error error) : error.Unfiled := by
  rcases bind_eq_error_iff.mp failed with unnamed | ⟨text, _, failed⟩
  · exact unfiled_of_unlocated unnamed
  rcases bind_eq_error_iff.mp failed with rootless | ⟨root, _, failed⟩
  · exact unfiled_of_unlocated rootless
  rcases bind_eq_error_iff.mp failed with unmade | ⟨draft, _, failed⟩
  · exact unfiled_of_draft unmade
  rcases bind_eq_error_iff.mp failed with unfinished | ⟨rules, _, failed⟩
  · exact unfiled_of_finish unfinished
  · cases failed

end Grammar

namespace FilePath

theorem text_ne_empty_of_name {path : FilePath} (named : path.name ≠ "") : path.text ≠ "" := by
  induction path using childInduction with
  | outermost root => exact absurd rfl named
  | child path name _ =>
    have last : (path.child name).name = name := by simp [child, FilePath.name]
    rw [last] at named
    rw [text_child]
    split <;> simp [named]

theorem text_ne_empty_of_suffix {path : FilePath} (suffixed : path.suffix ≠ "") :
    path.text ≠ "" := by
  apply text_ne_empty_of_name
  intro unnamed
  simp [suffix, unnamed] at suffixed

end FilePath

namespace Diagnostic

/-- What a diagnostic without a file says, and what it says when its context gets one. -/
theorem text_of_file (kind : DiagnosticKind) (message : String) {file : FilePath}
    (named : file.text ≠ "") (rule field : Option String) :
    text ⟨kind, message, some ⟨some file, rule, field⟩⟩ =
      file.text ++ ": " ++ text ⟨kind, message, some ⟨none, rule, field⟩⟩ := by
  have sameRule : Context.ruleText ⟨some file, rule, field⟩ =
      Context.ruleText ⟨none, rule, field⟩ := rfl
  have places : Context.ruleText ⟨none, rule, field⟩ = [] ∨
      ∃ place, place ≠ "" ∧ Context.ruleText ⟨none, rule, field⟩ = [place] := by
    rcases rule with _ | rule
    · exact .inl rfl
    · by_cases empty : rule.isEmpty = true
      · exact .inl (by simp [Context.ruleText, empty])
      · refine .inr ⟨rule ++ (field.map ("." ++ ·)).getD "", ?_, by simp [Context.ruleText, empty]⟩
        intro nothing
        exact empty (by simp [(String.append_eq_empty_iff.mp nothing).1])
  rcases places with none | ⟨place, visible, single⟩
  · simp [text, location, Context.text, sameRule, none, named]
  · simp [text, location, Context.text, sameRule, single, visible, named, String.append_assoc]

end Diagnostic

namespace SchemaError

/-- What an error of a module says besides its file. An error without a place is put down to the
module, if that has a name. -/
def textIn (spec : SchemaModule) (error : SchemaError) : String :=
  match error.context with
  | some _ => error.diagnostic.text
  | none =>
    if spec.name = "" then error.fault.message else spec.name ++ ": " ++ error.fault.message

/-- With its file, an error begins with the file and goes on with what it says besides. -/
theorem text_inFile {file : FilePath} (spec : SchemaModule) {error : SchemaError}
    (unfiled : error.Unfiled) (named : file.text ≠ "") :
    (error.inFile file spec).diagnostic.text = file.text ++ ": " ++ error.textIn spec := by
  rcases error with ⟨fault, _ | ⟨other, rule, field⟩⟩
  · have placed := Diagnostic.text_of_file .schema fault.message named (some spec.name) none
    refine placed.trans (congrArg (file.text ++ ": " ++ ·) ?_)
    by_cases unnamed : spec.name = "" <;>
      simp [Diagnostic.text, Diagnostic.location, Context.text, Context.ruleText, textIn, unnamed]
  · cases (unfiled _ rfl : other = none)
    exact Diagnostic.text_of_file .schema fault.message named rule field

end SchemaError

namespace SchemaModule

variable {file : FilePath} {spec : SchemaModule} {grammar : Grammar}

theorem name_of_compile (compiled : spec.compile = .ok grammar) :
    grammar.name = spec.grammarName ∧ TypeRef.isIdentifier grammar.name = true := by
  obtain ⟨text, _, _, _, given, identifier, _, _, _, _, rfl⟩ :=
    Grammar.compile_eq_ok_iff.mp compiled
  cases given
  exact ⟨rfl, identifier⟩

theorem owner?_eq_none_iff {earlier : List SchemaModule} :
    spec.owner? earlier = none ↔ spec.grammarName ∉ earlier.map grammarName := by
  simp [owner?, List.find?_eq_none]

theorem compileIn_eq_ok_iff {earlier : List SchemaModule} :
    spec.compileIn file earlier = .ok grammar ↔
      spec.grammarName ∉ earlier.map grammarName ∧ spec.compile = .ok grammar := by
  rw [← owner?_eq_none_iff]
  unfold compileIn
  rcases spec.owner? earlier with _ | owner <;> simp [mapError_eq_ok_iff]

theorem compileAll_eq_ok_iff {earlier specs : List SchemaModule} {grammars : List Grammar} :
    compileAll file earlier specs = .ok grammars ↔
      List.Forall₂ (fun spec grammar => spec.compile = .ok grammar) specs grammars ∧
        (specs.map grammarName).Nodup ∧
        ∀ spec ∈ specs, spec.grammarName ∉ earlier.map grammarName := by
  induction specs generalizing earlier grammars with
  | nil => simp [compileAll, eq_comm]
  | cons spec rest inductionHypothesis =>
    simp only [compileAll, bind_eq_ok_iff, compileIn_eq_ok_iff, inductionHypothesis,
      List.map_append, List.map_cons, List.map_nil, List.mem_append, List.mem_singleton, not_or,
      List.nodup_cons, List.forall_mem_cons]
    constructor
    · rintro ⟨grammar, ⟨unused, first⟩, others, ⟨compiled, distinct, apart⟩, ⟨⟩⟩
      refine ⟨.cons first compiled, ⟨?_, distinct⟩, unused,
        fun other listed => (apart other listed).1⟩
      intro repeated
      obtain ⟨other, listed, same⟩ := List.mem_map.mp repeated
      exact (apart other listed).2 same
    · rintro ⟨compiled, ⟨unique, distinct⟩, unused, apart⟩
      cases compiled with
      | @cons _ grammar _ others first compiled =>
        refine ⟨grammar, ⟨unused, first⟩, others, ⟨compiled, distinct, ?_⟩, rfl⟩
        intro other listed
        exact ⟨apart other listed, fun same => unique (List.mem_map.mpr ⟨other, listed, same⟩)⟩

theorem names_of_forall₂ {specs : List SchemaModule} {grammars : List Grammar}
    (compiled : List.Forall₂ (fun spec grammar => spec.compile = .ok grammar) specs grammars) :
    grammars.map Grammar.name = specs.map grammarName := by
  induction compiled with
  | nil => rfl
  | cons first _ inductionHypothesis =>
    rw [List.map_cons, List.map_cons, inductionHypothesis, (name_of_compile first).1]

theorem grammars_eq_ok_iff {schema : SchemaModule} {grammars : List Grammar} :
    schema.grammars file = .ok grammars ↔
      List.Forall₂ (fun spec grammar => spec.compile = .ok grammar) schema.grammarModules
        grammars ∧ (grammars.map Grammar.name).Nodup := by
  rw [SchemaModule.grammars, compileAll_eq_ok_iff]
  apply and_congr_right
  intro compiled
  rw [names_of_forall₂ compiled]
  simp

theorem exists_grammars_iff {specs : List SchemaModule} :
    (∃ grammars, List.Forall₂ (fun spec grammar => spec.compile = .ok grammar) specs grammars) ↔
      ∀ spec ∈ specs, ∃ grammar, spec.compile = .ok grammar := by
  induction specs with
  | nil => simp
  | cons spec rest inductionHypothesis =>
    rw [List.forall_mem_cons, ← inductionHypothesis]
    constructor
    · rintro ⟨_, _ | ⟨first, others⟩⟩
      exact ⟨⟨_, first⟩, _, others⟩
    · rintro ⟨⟨grammar, first⟩, grammars, others⟩
      exact ⟨grammar :: grammars, .cons first others⟩

theorem owner?_eq_some {earlier : List SchemaModule} {owner : SchemaModule}
    (found : spec.owner? earlier = some owner) :
    owner ∈ earlier ∧ owner.grammarName = spec.grammarName :=
  ⟨List.mem_of_find?_eq_some found, by simpa using List.find?_some found⟩

theorem compileIn_eq_error_iff {earlier : List SchemaModule} {error : SchemaError} :
    spec.compileIn file earlier = .error error ↔
      (∃ owner, spec.owner? earlier = some owner ∧
        error = ⟨.duplicateGrammar spec.grammarName owner.name spec.name,
          some ⟨some file, some spec.name, none⟩⟩) ∨
      (spec.owner? earlier = none ∧
        ∃ own, spec.compile = .error own ∧ error = own.inFile file spec) := by
  unfold compileIn
  rcases spec.owner? earlier with _ | owner
  · simp only [mapError_eq_error_iff, reduceCtorEq, false_and, exists_false, true_and, false_or]
    simp only [eq_comm]
  · simp [eq_comm]

/-- The modules before the first offender all have grammars. -/
theorem compileAll_eq_error_iff {earlier specs : List SchemaModule} {error : SchemaError} :
    compileAll file earlier specs = .error error ↔
      ∃ before spec after, specs = before ++ spec :: after ∧
        (∃ grammars, compileAll file earlier before = .ok grammars) ∧
        spec.compileIn file (earlier ++ before) = .error error := by
  induction specs generalizing earlier with
  | nil => simp [compileAll]
  | cons first rest inductionHypothesis =>
    simp only [compileAll, bind_eq_error_iff, inductionHypothesis]
    constructor
    · rintro (failed | ⟨grammar, compiled, failed | ⟨grammars, _, ⟨⟩⟩⟩)
      · exact ⟨[], first, rest, rfl, ⟨[], rfl⟩, by simpa using failed⟩
      · obtain ⟨before, spec, after, rfl, ⟨grammars, others⟩, failed⟩ := failed
        refine ⟨first :: before, spec, after, rfl, ⟨grammar :: grammars, ?_⟩, by simpa using failed⟩
        simp [compileAll, compiled, others, bind, Except.bind, pure, Except.pure]
    · rintro ⟨before, spec, after, parts, ⟨grammars, others⟩, failed⟩
      rcases before with _ | ⟨other, before⟩
      · cases parts
        exact .inl (by simpa using failed)
      · cases parts
        obtain ⟨grammar, compiled, others⟩ := bind_eq_ok_iff.mp others
        obtain ⟨grammars, others, _⟩ := bind_eq_ok_iff.mp others
        exact .inr ⟨grammar, compiled, .inl ⟨before, spec, after, rfl, ⟨grammars, others⟩,
          by simpa using failed⟩⟩

/-- Why the first module that offends has no grammar: a module before it owns the name, or it does
not compile. In the second case the fault is its own. -/
inductive Offence (file : FilePath) (before : List SchemaModule) (spec : SchemaModule) :
    SchemaError → Prop where
  | taken {owner : SchemaModule} :
      owner ∈ before → owner.grammarName = spec.grammarName →
      Offence file before spec
        ⟨.duplicateGrammar spec.grammarName owner.name spec.name,
          some ⟨some file, some spec.name, none⟩⟩
  | failed {own error : SchemaError} :
      spec.grammarName ∉ before.map grammarName → spec.compile = .error own →
      error.fault = own.fault →
      error.diagnostic.text = file.text ++ ": " ++ own.textIn spec →
      Offence file before spec error

theorem offence_of_compileIn {before : List SchemaModule} {error : SchemaError}
    (named : file.text ≠ "") (failed : spec.compileIn file before = .error error) :
    Offence file before spec error := by
  rcases compileIn_eq_error_iff.mp failed with ⟨owner, found, rfl⟩ | ⟨unowned, own, alone, rfl⟩
  · obtain ⟨earlier, same⟩ := owner?_eq_some found
    exact .taken earlier same
  · have unfiled := Grammar.unfiled_of_compile alone
    exact .failed (owner?_eq_none_iff.mp unowned) alone rfl
      (SchemaError.text_inFile spec unfiled named)

end SchemaModule

theorem Workspace.grammars_eq_ok_iff {workspace : Workspace} {path : FilePath}
    {grammars : List Grammar} :
    workspace.grammars path = .ok grammars ↔
      ∃ document, workspace.readSchema path = .ok document ∧
        List.Forall₂ (fun spec grammar => spec.compile = .ok grammar) document.grammarModules
          grammars ∧ (grammars.map Grammar.name).Nodup := by
  rw [Workspace.grammars, bind_eq_ok_iff]
  simp only [mapError_eq_ok_iff, SchemaModule.grammars_eq_ok_iff]

namespace Workspace

theorem suffix_ne_of_readSchema {workspace : Workspace} {path : FilePath} {schema : SchemaModule}
    (readable : workspace.readSchema path = .ok schema) : path.suffix ≠ "" := by
  obtain ⟨format, known, _⟩ := bind_eq_ok_iff.mp readable
  rw [mapError_eq_ok_iff, formatOf] at known
  intro bare
  rw [bare] at known
  cases known

theorem grammars_of_readSchema {workspace : Workspace} {path : FilePath} {schema : SchemaModule}
    (readable : workspace.readSchema path = .ok schema) :
    workspace.grammars path = (schema.grammars path).mapError .error := by
  rw [grammars, readable]
  rfl

/-- A readable schema has grammars when its modules name different ones and each of them compiles by
itself; its own name and definitions are all that counts for it. Otherwise the error is that of the
first module which names the grammar of one before it, or else does not compile. -/
theorem grammars_of_modules {workspace : Workspace} {path : FilePath} {schema : SchemaModule}
    (readable : workspace.readSchema path = .ok schema) :
    ((∃ grammars, workspace.grammars path = .ok grammars) ↔
      (schema.grammarModules.map SchemaModule.grammarName).Nodup ∧
        ∀ spec ∈ schema.grammarModules, ∃ grammar, spec.compile = .ok grammar) ∧
    (∀ grammars, workspace.grammars path = .ok grammars →
      List.Forall₂ (fun spec grammar =>
        Grammar.compile (.string spec.grammarName) spec.definitions = .ok grammar)
        schema.grammarModules grammars) ∧
    ∀ stop, workspace.grammars path = .error stop →
      ∃ before spec after error, schema.grammarModules = before ++ spec :: after ∧
        (before.map SchemaModule.grammarName).Nodup ∧
        (∀ other ∈ before, ∃ grammar, other.compile = .ok grammar) ∧
        stop = .error error ∧ spec.Offence path before error := by
  have named := FilePath.text_ne_empty_of_suffix (suffix_ne_of_readSchema readable)
  rw [grammars_of_readSchema readable]
  simp only [mapError_eq_ok_iff, SchemaModule.grammars]
  refine ⟨?_, ?_, ?_⟩
  · constructor
    · intro made
      obtain ⟨grammars, compiled⟩ := made
      obtain ⟨each, distinct, _⟩ := SchemaModule.compileAll_eq_ok_iff.mp compiled
      exact ⟨distinct, SchemaModule.exists_grammars_iff.mp ⟨grammars, each⟩⟩
    · intro conditions
      obtain ⟨distinct, compile⟩ := conditions
      obtain ⟨grammars, each⟩ := SchemaModule.exists_grammars_iff.mpr compile
      exact ⟨grammars, SchemaModule.compileAll_eq_ok_iff.mpr ⟨each, distinct, by simp⟩⟩
  · intro grammars compiled
    exact (SchemaModule.compileAll_eq_ok_iff.mp compiled).1
  · intro stop failed
    obtain ⟨error, stopped, rfl⟩ := mapError_eq_error_iff.mp failed
    obtain ⟨before, spec, after, parts, ⟨grammars, compiled⟩, offended⟩ :=
      SchemaModule.compileAll_eq_error_iff.mp stopped
    obtain ⟨each, distinct, _⟩ := SchemaModule.compileAll_eq_ok_iff.mp compiled
    exact ⟨before, spec, after, error, parts, distinct,
      SchemaModule.exists_grammars_iff.mp ⟨grammars, each⟩, rfl,
      SchemaModule.offence_of_compileIn named offended⟩

/-- The second of two modules has no root. -/
def rootlessSchema : String :=
  "\x7b\"grammar\":\"a\",\"modules\":[\x7b\"grammar\":\"b\",\"definitions\":" ++
    "[\x7b\"kind\":\"record\",\"name\":\"R\",\"language\":true\x7d]\x7d]\x7d"

def rootlessWorkspace : Workspace :=
  ⟨["work"], [(["work"], .directory), (["work", "s.json"], .file rootlessSchema.toUTF8)]⟩

/-- The text of the error with which a schema ends, if it is readable. -/
def errorText? (path : FilePath) :
    Except (Stop SchemaError) SchemaModule → Option String
  | .ok schema =>
    match schema.grammars path with
    | .error error => some error.diagnostic.text
    | .ok _ => none
  | .error _ => none

/-- The error of the outer module has no place of its own, so that it is put down to the module. -/
theorem grammars_rootlessWorkspace :
    ∃ schema error, rootlessWorkspace.readSchema (.ofText "s.json") = .ok schema ∧
      rootlessWorkspace.grammars (.ofText "s.json") = .error (.error error) ∧
      error.diagnostic.text =
        "s.json: root: Each grammar must mark its root definition with 'language = true'" ∧
      ∃ before spec after, schema.grammarModules = before ++ spec :: after ∧
        spec.Offence (.ofText "s.json") before error := by
  have reported : errorText? (.ofText "s.json")
      (rootlessWorkspace.readSchema (.ofText "s.json")) =
        some "s.json: root: Each grammar must mark its root definition with 'language = true'" := by
    decide +kernel
  rcases readable : rootlessWorkspace.readSchema (.ofText "s.json") with fault | schema
  · rw [readable] at reported
    cases reported
  rw [readable, errorText?] at reported
  have failed := grammars_of_readSchema readable
  rcases outcome : schema.grammars (.ofText "s.json") with error | grammars
  · rw [outcome] at failed reported
    obtain ⟨before, spec, after, _, parts, _, _, ⟨⟩, offence⟩ :=
      (grammars_of_modules readable).2.2 _ failed
    exact ⟨schema, error, rfl, failed, Option.some.inj reported, before, spec, after, parts,
      offence⟩
  · rw [outcome] at reported
    cases reported

end Workspace

end SchemaGrammar
