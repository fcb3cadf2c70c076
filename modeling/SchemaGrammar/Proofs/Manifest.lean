import SchemaGrammar.Manifest
import SchemaGrammar.Proofs.Faults
set_option autoImplicit false

/-!
Loading manifests. A manifest is either rejected, or its settings are in order and its paths can be
asked for, unless something breaks the loading or one of the paths. `Breaks` lists what does, by
what is found at the path of the manifest and by what stands in its sections; the settings are
looked at in a fixed order, so that each entry of the list says what was in order before it.
-/

namespace SchemaGrammar

namespace Workspace

variable {workspace : Workspace} {path : FilePath}

theorem contains_of_found {node : Node} (found : workspace.find path = .ok node) :
    workspace.contains path = .ok true := by
  rw [contains, found]

theorem readText_of_directory (found : workspace.find path = .ok .directory) :
    workspace.readText path = .error (.access .isDirectory) := by
  simp only [readText, read, found]
  rfl

theorem readText_of_file {content : ByteArray} (found : workspace.find path = .ok (.file content)) :
    workspace.readText path =
      match String.fromUTF8? content with
      | some text => .ok (Text.unifyNewlines text)
      | none => .error .notText := by
  simp only [readText, read, found]
  rfl

theorem found_of_readText {text : String} (decoded : workspace.readText path = .ok text) :
    ∃ node, workspace.find path = .ok node := by
  obtain ⟨content, taken, _⟩ := bind_eq_ok_iff.mp decoded
  obtain ⟨node, found, _⟩ := bind_eq_ok_iff.mp (mapError_eq_ok_iff.mp taken)
  exact ⟨node, found⟩

end Workspace

namespace Manifest

section Settings

variable {settings : Table} {heading key : String} {path : FilePath} {failure : Failure}

/-- Something else stands where a section belongs. -/
def Misplaced (settings : Table) (heading : String) : Prop :=
  ∃ value, settings.lookup heading = some value ∧ ∀ entries, value ≠ .table entries

/-- What stands under a key of a section, if both are there. -/
def valueAt? (settings : Table) (heading key : String) : Option Value :=
  match settings.lookup heading with
  | some (.table entries) => entries.lookup key
  | _ => none

theorem setting_eq_ok_iff {found : Option Value} :
    setting settings heading key = .ok found ↔
      ¬ Misplaced settings heading ∧ valueAt? settings heading key = found := by
  unfold setting Misplaced valueAt?
  rcases settings.lookup heading with _ | value
  · simp
  · cases value <;> simp

theorem setting_eq_error_iff {stop : ManifestError} :
    setting settings heading key = .error stop ↔
      Misplaced settings heading ∧ .failure .sectionNotTable = stop := by
  unfold setting Misplaced
  rcases settings.lookup heading with _ | value
  · simp
  · cases value <;> simp

theorem not_misplaced_of_valueAt? {value : Value}
    (given : valueAt? settings heading key = some value) : ¬ Misplaced settings heading := by
  rintro ⟨other, found, noSection⟩
  unfold valueAt? at given
  split at given
  · rename_i entries same
    rw [found] at same
    exact noSection entries (Option.some.inj same)
  · simp at given

/-- A setting whose values are accepted or rejected fails only together with its section. -/
theorem bind_setting_eq_failure_iff {Data : Type} {check : Option Value → Except ManifestError Data}
    (checked : ∀ found failure, check found ≠ .error (.failure failure)) :
    (setting settings heading key >>= check) = .error (.failure failure) ↔
      Misplaced settings heading ∧ .sectionNotTable = failure := by
  rw [bind_eq_error_iff, setting_eq_error_iff, Stop.failure.injEq]
  constructor
  · rintro (misplaced | ⟨found, _, failed⟩)
    · exact misplaced
    · exact absurd failed (checked found failure)
  · exact .inl

/-- The schema is given, by something that is not empty. -/
def GivesSchema (settings : Table) (schema : Value) : Prop :=
  valueAt? settings "project" "schema" = some schema ∧ schema.isVoid = false

/-- The indentation is given by a natural number, or left at its default. -/
def GivesIndent (settings : Table) (indent : Nat) : Prop :=
  ¬ Misplaced settings "output" ∧
    (valueAt? settings "output" "indent").getD (.integer 2) = .integer indent

/-- The level of the log as it is given, or its default. -/
def givenLevel (settings : Table) : Value :=
  (valueAt? settings "logging" "level").getD (.string "WARNING")

/-- The level of the log is given by one of its names, in letters of any case. -/
def GivesLevel (settings : Table) (level : String) (threshold : Nat) : Prop :=
  ¬ Misplaced settings "logging" ∧ (givenLevel settings).isPrintable = true ∧
    Text.uppercase (givenLevel settings).text = level ∧ levels.lookup level = some threshold

theorem schemaSetting_eq_ok_iff {schema : Value} :
    schemaSetting path settings = .ok schema ↔ GivesSchema settings schema := by
  rw [schemaSetting, bind_eq_ok_iff]
  constructor
  · rintro ⟨found, given, checked⟩
    obtain ⟨_, rfl⟩ := setting_eq_ok_iff.mp given
    split at checked <;> rename_i entry
    · split at checked <;> rename_i void
      · simp at checked
      · cases checked
        exact ⟨entry, by simpa using void⟩
    · simp at checked
  · rintro ⟨given, filled⟩
    exact ⟨some schema, setting_eq_ok_iff.mpr ⟨not_misplaced_of_valueAt? given, given⟩,
      by simp [filled]⟩

theorem schemaSetting_eq_failure_iff :
    schemaSetting path settings = .error (.failure failure) ↔
      Misplaced settings "project" ∧ .sectionNotTable = failure := by
  apply bind_setting_eq_failure_iff
  intro found failure
  split
  · split <;> simp
  · simp

theorem indentSetting_eq_ok_iff {indent : Nat} :
    indentSetting path settings = .ok indent ↔ GivesIndent settings indent := by
  rw [indentSetting, bind_eq_ok_iff]
  constructor
  · rintro ⟨found, given, checked⟩
    obtain ⟨placed, rfl⟩ := setting_eq_ok_iff.mp given
    refine ⟨placed, ?_⟩
    split at checked <;> rename_i entry
    · cases checked
      rw [entry]
      rfl
    · cases checked
      rw [entry]
      rfl
    · simp at checked
  · rintro ⟨placed, natural⟩
    refine ⟨_, setting_eq_ok_iff.mpr ⟨placed, rfl⟩, ?_⟩
    rcases given : valueAt? settings "output" "indent" with _ | value
    · rw [given, Option.getD_none, Value.integer.injEq] at natural
      rw [show indent = 2 by omega]
    · rw [given, Option.getD_some] at natural
      rw [natural]

theorem indentSetting_eq_failure_iff :
    indentSetting path settings = .error (.failure failure) ↔
      Misplaced settings "output" ∧ .sectionNotTable = failure := by
  apply bind_setting_eq_failure_iff
  intro found failure
  split <;> simp

theorem levelSetting_eq_ok_iff {level : String} {threshold : Nat} :
    levelSetting path settings = .ok (level, threshold) ↔ GivesLevel settings level threshold := by
  rw [levelSetting, bind_eq_ok_iff]
  constructor
  · rintro ⟨found, given, checked⟩
    obtain ⟨placed, rfl⟩ := setting_eq_ok_iff.mp given
    dsimp only at checked
    split at checked <;> rename_i printable
    · split at checked <;> rename_i listed
      · cases checked
        exact ⟨placed, printable, rfl, listed⟩
      · simp at checked
    · simp at checked
  · rintro ⟨placed, printable, rfl, listed⟩
    refine ⟨_, setting_eq_ok_iff.mpr ⟨placed, rfl⟩, ?_⟩
    rw [givenLevel] at printable listed
    simp [printable, listed, givenLevel]

theorem levelSetting_eq_failure_iff :
    levelSetting path settings = .error (.failure failure) ↔
      (Misplaced settings "logging" ∧ .sectionNotTable = failure) ∨
        (¬ Misplaced settings "logging" ∧ (givenLevel settings).isPrintable = false ∧
          .longInteger = failure) := by
  rw [levelSetting, bind_eq_error_iff, setting_eq_error_iff, Stop.failure.injEq]
  apply or_congr_right
  constructor
  · rintro ⟨found, given, checked⟩
    obtain ⟨placed, rfl⟩ := setting_eq_ok_iff.mp given
    dsimp only at checked
    split at checked <;> rename_i printable
    · split at checked <;> simp at checked
    · cases checked
      exact ⟨placed, by simpa [givenLevel] using printable, rfl⟩
  · rintro ⟨placed, unprintable, rfl⟩
    refine ⟨_, setting_eq_ok_iff.mpr ⟨placed, rfl⟩, ?_⟩
    rw [givenLevel] at unprintable
    simp [unprintable]

/-- A manifest holds what the settings give, and the defaults of what they do not give. -/
structure Holds (path : FilePath) (settings : Table) (manifest : Manifest) : Prop where
  schema : GivesSchema settings manifest.schema
  indent : GivesIndent settings manifest.indent
  level : GivesLevel settings manifest.level manifest.threshold
  name : (valueAt? settings "project" "name").getD (.string path.parent.name) = manifest.name
  output : (valueAt? settings "output" "dir").getD (.string "grammars") = manifest.output
  root : path.parent = manifest.root

theorem ofTable_eq_ok_iff {manifest : Manifest} :
    ofTable path settings = .ok manifest ↔ Holds path settings manifest := by
  simp only [ofTable, bind_eq_ok_iff, schemaSetting_eq_ok_iff, indentSetting_eq_ok_iff,
    setting_eq_ok_iff, Prod.exists, levelSetting_eq_ok_iff]
  constructor
  · rintro ⟨schema, given, indent, indented, level, threshold, leveled, _, ⟨_, rfl⟩, _, ⟨_, rfl⟩,
      made⟩
    cases made
    exact ⟨given, indented, leveled, rfl, rfl, rfl⟩
  · intro held
    refine ⟨_, held.schema, _, held.indent, _, _, held.level, _,
      ⟨not_misplaced_of_valueAt? held.schema.1, rfl⟩, _, ⟨held.indent.1, rfl⟩, ?_⟩
    rw [held.name, held.output, held.root]
    rfl

/-- What stands in a table of settings and breaks the loading. -/
inductive Misfit (settings : Table) : Failure → Prop where
  | project (misplaced : Misplaced settings "project") : Misfit settings .sectionNotTable
  | output {schema : Value} (given : GivesSchema settings schema)
      (misplaced : Misplaced settings "output") : Misfit settings .sectionNotTable
  | logging {schema : Value} {indent : Nat} (given : GivesSchema settings schema)
      (indented : GivesIndent settings indent) (misplaced : Misplaced settings "logging") :
      Misfit settings .sectionNotTable
  | level {schema : Value} {indent : Nat} (given : GivesSchema settings schema)
      (indented : GivesIndent settings indent) (placed : ¬ Misplaced settings "logging")
      (unprintable : (givenLevel settings).isPrintable = false) : Misfit settings .longInteger

theorem ofTable_eq_failure_iff :
    ofTable path settings = .error (.failure failure) ↔ Misfit settings failure := by
  simp only [ofTable, bind_eq_error_iff, schemaSetting_eq_ok_iff, schemaSetting_eq_failure_iff,
    indentSetting_eq_ok_iff, indentSetting_eq_failure_iff, levelSetting_eq_ok_iff,
    levelSetting_eq_failure_iff, setting_eq_ok_iff, setting_eq_error_iff, Prod.exists]
  constructor
  · rintro (⟨misplaced, rfl⟩ | ⟨schema, given, ⟨misplaced, rfl⟩ | ⟨indent, indented, later⟩⟩)
    · exact .project misplaced
    · exact .output given misplaced
    · rcases later with (⟨misplaced, rfl⟩ | ⟨placed, unprintable, rfl⟩) | ⟨_, _, _, later⟩
      · exact .logging given indented misplaced
      · exact .level given indented placed unprintable
      -- The sections of the name and of the directory have been looked into before.
      · rcases later with ⟨misplaced, _⟩ | ⟨_, _, ⟨misplaced, _⟩ | ⟨_, _, made⟩⟩
        · exact absurd misplaced (not_misplaced_of_valueAt? given.1)
        · exact absurd misplaced indented.1
        · cases made
  · intro misfit
    cases misfit with
    | project misplaced => exact .inl ⟨misplaced, rfl⟩
    | output given misplaced => exact .inr ⟨_, given, .inl ⟨misplaced, rfl⟩⟩
    | logging given indented misplaced =>
      exact .inr ⟨_, given, .inr ⟨_, indented, .inl (.inl ⟨misplaced, rfl⟩)⟩⟩
    | level given indented placed unprintable =>
      exact .inr ⟨_, given, .inr ⟨_, indented, .inl (.inr ⟨placed, unprintable, rfl⟩)⟩⟩

/-- The level that a manifest keeps names its value again. -/
theorem Holds.lookup_uppercase {manifest : Manifest} (held : Holds path settings manifest) :
    levels.lookup (Text.uppercase manifest.level) = some manifest.threshold := by
  have capital : ∀ entry ∈ levels, Text.uppercase entry.1 = entry.1 := by decide +kernel
  obtain ⟨_, _, _, listed⟩ := held.level
  obtain ⟨before, after, split, _⟩ := List.lookup_eq_some_iff.mp listed
  have member : (manifest.level, manifest.threshold) ∈ levels := by simp [split]
  rw [capital _ member]
  exact listed

end Settings

section File

variable {workspace : Workspace} {path : FilePath} {failure : Failure}

/-- A file holds a document with these settings. -/
def Gives (workspace : Workspace) (path : FilePath) (settings : Table) : Prop :=
  ∃ text, workspace.readText path = .ok text ∧ Toml.read text = .ok settings

/-- What is found at a path and breaks the reading of settings from there. -/
inductive Unreadable (workspace : Workspace) (path : FilePath) : Failure → Prop where
  | longPath (found : workspace.find path = .error .nameTooLong) :
      Unreadable workspace path (.read (.access .nameTooLong))
  | directory (found : workspace.find path = .ok .directory) :
      Unreadable workspace path (.read (.access .isDirectory))
  | notText {content : ByteArray} (found : workspace.find path = .ok (.file content))
      (undecodable : String.fromUTF8? content = none) : Unreadable workspace path (.read .notText)
  | longInteger {text : String} (decoded : workspace.readText path = .ok text)
      (failed : Toml.read text = .error .longInteger) : Unreadable workspace path .longInteger
  | tooDeep {text : String} (decoded : workspace.readText path = .ok text)
      (failed : Toml.read text = .error .tooDeep) : Unreadable workspace path .tooDeep

theorem settings_of_missing {fault : AccessFault} (found : workspace.find path = .error fault)
    (short : fault ≠ .nameTooLong) : settings workspace path = .error (.error (.missing path)) := by
  have nothing : workspace.contains path = .ok false := by
    rw [Workspace.contains, found]
    cases fault with
    | nameTooLong => exact absurd rfl short
    | _ => rfl
  simp only [settings, nothing]
  rfl

theorem settings_of_longPath (found : workspace.find path = .error .nameTooLong) :
    settings workspace path = .error (.failure (.read (.access .nameTooLong))) := by
  simp only [settings, Workspace.contains, found]
  rfl

theorem settings_of_fault {node : Node} {fault : ReadFault}
    (found : workspace.find path = .ok node) (failed : workspace.readText path = .error fault) :
    settings workspace path = .error (.failure (.read fault)) := by
  simp only [settings, Workspace.contains_of_found found, failed]
  rfl

theorem settings_of_text {node : Node} {text : String} (found : workspace.find path = .ok node)
    (decoded : workspace.readText path = .ok text) :
    settings workspace path =
      (Toml.read text).mapError (Stop.ofDocument (.invalid path "it is not a TOML document")) := by
  simp only [settings, Workspace.contains_of_found found, decoded]
  rfl

theorem settings_eq_ok_iff {table : Table} :
    settings workspace path = .ok table ↔ Gives workspace path table := by
  constructor
  · intro given
    obtain ⟨found, asked, given⟩ := bind_eq_ok_iff.mp given
    split at given
    · obtain ⟨text, decoded, read⟩ := bind_eq_ok_iff.mp given
      exact ⟨text, mapError_eq_ok_iff.mp decoded, mapError_eq_ok_iff.mp read⟩
    · cases given
  · rintro ⟨text, decoded, read⟩
    obtain ⟨node, found⟩ := Workspace.found_of_readText decoded
    rw [settings_of_text found decoded, mapError_eq_ok_iff]
    exact read

/-- A node whose text cannot be read is a directory, or a file that is not in UTF-8. -/
theorem unreadable_of_fault {node : Node} {fault : ReadFault}
    (found : workspace.find path = .ok node) (failed : workspace.readText path = .error fault) :
    Unreadable workspace path (.read fault) := by
  cases node with
  | directory =>
    cases (Workspace.readText_of_directory found).symm.trans failed
    exact .directory found
  | file content =>
    rw [Workspace.readText_of_file found] at failed
    split at failed <;> rename_i decoding
    · cases failed
    · cases failed
      exact .notText found decoding

theorem settings_eq_failure_iff :
    settings workspace path = .error (.failure failure) ↔ Unreadable workspace path failure := by
  constructor
  · intro failed
    rcases found : workspace.find path with fault | node
    · by_cases long : fault = .nameTooLong
      · subst long
        cases (settings_of_longPath found).symm.trans failed
        exact .longPath found
      · cases (settings_of_missing found long).symm.trans failed
    · rcases decoded : workspace.readText path with fault | text
      · cases (settings_of_fault found decoded).symm.trans failed
        exact unreadable_of_fault found decoded
      · rw [settings_of_text found decoded, mapError_eq_error_iff] at failed
        obtain ⟨fault, failed, cause⟩ := failed
        cases fault with
        | malformed => cases cause
        | longInteger =>
          cases cause
          exact .longInteger decoded failed
        | tooDeep =>
          cases cause
          exact .tooDeep decoded failed
  · intro unreadable
    cases unreadable with
    | longPath found => exact settings_of_longPath found
    | directory found => exact settings_of_fault found (Workspace.readText_of_directory found)
    | notText found undecodable =>
      have failed := Workspace.readText_of_file found
      rw [undecodable] at failed
      exact settings_of_fault found failed
    | longInteger decoded failed =>
      obtain ⟨node, found⟩ := Workspace.found_of_readText decoded
      rw [settings_of_text found decoded, failed]
      rfl
    | tooDeep decoded failed =>
      obtain ⟨node, found⟩ := Workspace.found_of_readText decoded
      rw [settings_of_text found decoded, failed]
      rfl

/-- Everything that breaks the loading of a manifest or one of the paths that it gives. -/
inductive Breaks (workspace : Workspace) (path : FilePath) : Failure → Prop where
  | unreadable {failure : Failure} (unreadable : Unreadable workspace path failure) :
      Breaks workspace path failure
  | misfit {settings : Table} {failure : Failure} (given : Gives workspace path settings)
      (misfit : Misfit settings failure) : Breaks workspace path failure
  | schema {settings : Table} {manifest : Manifest} (given : Gives workspace path settings)
      (held : Holds path settings manifest) (noText : ∀ text, manifest.schema ≠ .string text) :
      Breaks workspace path .pathNotText
  | output {settings : Table} {manifest : Manifest} (given : Gives workspace path settings)
      (held : Holds path settings manifest) (noText : ∀ text, manifest.output ≠ .string text) :
      Breaks workspace path .pathNotText

/-- Loading a manifest, or asking the manifest for one of its paths, ends in a failure. -/
inductive Escapes (workspace : Workspace) (path : FilePath) (failure : Failure) : Prop where
  | load (failed : load workspace path = .error (.failure failure)) : Escapes workspace path failure
  | schemaFile {manifest : Manifest} (loaded : load workspace path = .ok manifest)
      (failed : manifest.schemaFile = .error failure) : Escapes workspace path failure
  | outputDirectory {manifest : Manifest} (loaded : load workspace path = .ok manifest)
      (failed : manifest.outputDirectory = .error failure) : Escapes workspace path failure

/-- A manifest whose settings are in order and whose paths can be asked for. -/
structure Settled (workspace : Workspace) (path : FilePath) (manifest : Manifest) : Prop where
  indent : ∃ settings, Gives workspace path settings ∧ GivesIndent settings manifest.indent
  level : levels.lookup (Text.uppercase manifest.level) = some manifest.threshold
  schemaFile : ∃ file, manifest.schemaFile = .ok file
  outputDirectory : ∃ directory, manifest.outputDirectory = .ok directory

/-- A manifest is rejected by an error of the input, or else it is settled. -/
def Surfaces (workspace : Workspace) (path : FilePath) : Prop :=
  (∃ fault, load workspace path = .error (.error fault)) ∨
    ∃ manifest, load workspace path = .ok manifest ∧ Settled workspace path manifest

theorem load_eq_ok_iff {manifest : Manifest} :
    load workspace path = .ok manifest ↔
      ∃ settings, Gives workspace path settings ∧ Holds path settings manifest := by
  simp only [load, bind_eq_ok_iff, settings_eq_ok_iff, ofTable_eq_ok_iff]

theorem load_eq_failure_iff :
    load workspace path = .error (.failure failure) ↔
      Unreadable workspace path failure ∨
        ∃ settings, Gives workspace path settings ∧ Misfit settings failure := by
  simp only [load, bind_eq_error_iff, settings_eq_ok_iff, settings_eq_failure_iff,
    ofTable_eq_failure_iff]

theorem pathOf_eq_error_iff {manifest : Manifest} {value : Value} :
    manifest.pathOf value = .error failure ↔
      (∀ text, value ≠ .string text) ∧ .pathNotText = failure := by
  cases value <;> simp [pathOf]

theorem escapes_iff : Escapes workspace path failure ↔ Breaks workspace path failure := by
  constructor
  · intro escapes
    cases escapes with
    | load failed =>
      rcases load_eq_failure_iff.mp failed with unreadable | ⟨settings, given, misfit⟩
      · exact .unreadable unreadable
      · exact .misfit given misfit
    | schemaFile loaded failed =>
      obtain ⟨settings, given, held⟩ := load_eq_ok_iff.mp loaded
      obtain ⟨noText, rfl⟩ := pathOf_eq_error_iff.mp failed
      exact .schema given held noText
    | outputDirectory loaded failed =>
      obtain ⟨settings, given, held⟩ := load_eq_ok_iff.mp loaded
      obtain ⟨noText, rfl⟩ := pathOf_eq_error_iff.mp failed
      exact .output given held noText
  · intro breaks
    cases breaks with
    | unreadable unreadable => exact .load (load_eq_failure_iff.mpr (.inl unreadable))
    | misfit given misfit => exact .load (load_eq_failure_iff.mpr (.inr ⟨_, given, misfit⟩))
    | schema given held noText =>
      exact .schemaFile (load_eq_ok_iff.mpr ⟨_, given, held⟩)
        (pathOf_eq_error_iff.mpr ⟨noText, rfl⟩)
    | output given held noText =>
      exact .outputDirectory (load_eq_ok_iff.mpr ⟨_, given, held⟩)
        (pathOf_eq_error_iff.mpr ⟨noText, rfl⟩)

/-- A manifest surfaces, as an error of the input or as settings to rely on, where no failure
escapes. -/
theorem surfaces_iff : Surfaces workspace path ↔ ∀ failure, ¬ Escapes workspace path failure := by
  constructor
  · rintro (⟨fault, rejected⟩ | ⟨manifest, loaded, settled⟩) failure escapes
    · cases escapes with
      | load failed => simp [rejected] at failed
      | schemaFile loaded => simp [rejected] at loaded
      | outputDirectory loaded => simp [rejected] at loaded
    · cases escapes with
      | load failed => simp [loaded] at failed
      | schemaFile again failed =>
        obtain ⟨file, computed⟩ := settled.schemaFile
        obtain rfl := Except.ok.inj (loaded.symm.trans again)
        simp [computed] at failed
      | outputDirectory again failed =>
        obtain ⟨directory, computed⟩ := settled.outputDirectory
        obtain rfl := Except.ok.inj (loaded.symm.trans again)
        simp [computed] at failed
  · intro none
    rcases outcome : load workspace path with (fault | failure) | manifest
    · exact .inl ⟨fault, outcome⟩
    · exact absurd (.load outcome) (none failure)
    · obtain ⟨settings, given, held⟩ := load_eq_ok_iff.mp outcome
      refine .inr ⟨manifest, outcome, ⟨settings, given, held.indent⟩, held.lookup_uppercase, ?_, ?_⟩
      · rcases asked : manifest.schemaFile with failure | file
        · exact absurd (.schemaFile outcome asked) (none failure)
        · exact ⟨file, rfl⟩
      · rcases asked : manifest.outputDirectory with failure | directory
        · exact absurd (.outputDirectory outcome asked) (none failure)
        · exact ⟨directory, rfl⟩

/-- The failures that loading a manifest and asking for its paths end in are exactly those listed;
where there is none of them, a manifest is rejected by an error or settled. -/
theorem load_settles_iff (workspace : Workspace) (path : FilePath) :
    (∀ failure, Escapes workspace path failure ↔ Breaks workspace path failure) ∧
      (Surfaces workspace path ↔ ∀ failure, ¬ Breaks workspace path failure) := by
  refine ⟨fun failure => escapes_iff, ?_⟩
  rw [surfaces_iff]
  exact forall_congr' fun failure => not_congr escapes_iff

/-- A working directory whose manifest is a single byte that begins no character. -/
def byteWorkspace : Workspace :=
  ⟨["work"], [(["work"], .directory), (["work", fileName], .file ⟨#[0xFF]⟩)]⟩

/-- Not every manifest surfaces. -/
theorem not_surfaces : ¬ ∀ workspace path, Surfaces workspace path := by
  intro surfaces
  have found : byteWorkspace.find (.ofText fileName) = .ok (.file ⟨#[0xFF]⟩) := rfl
  have unreadable : Unreadable byteWorkspace (.ofText fileName) (.read .notText) :=
    .notText found rfl
  exact surfaces_iff.mp (surfaces byteWorkspace (.ofText fileName)) _
    (escapes_iff.mpr (.unreadable unreadable))

end File

end Manifest

end SchemaGrammar
