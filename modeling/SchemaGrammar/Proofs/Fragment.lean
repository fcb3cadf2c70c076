import SchemaGrammar.Proofs.Emission
import SchemaGrammar.Schema.Fragment
set_option autoImplicit false

/-!
When a field has a fragment, and which. `Compiles` lists the four ways in which a field is compiled:
with a terminal of its own, by reference, as a list of items and as a list of items between
delimiters. `WellFormed` says the same of the declaration alone. A field emits one terminal at most;
it stands at the end of the chain of delimiters that begins with the field.
-/

namespace SchemaGrammar

namespace Field

/-- A property of fields that every field takes over from its delimiter. -/
@[elab_as_elim]
theorem delimiterInduction {motive : Field → Prop}
    (step : ∀ field : Field,
      (∀ delimiter, field.delimited = some delimiter → motive delimiter) → motive field) :
    ∀ field, motive field
  | ⟨_, _, _, none, _⟩ => step _ (by simp)
  | ⟨_, _, _, some delimiter, _⟩ =>
    step _ (by
      rintro _ ⟨⟩
      exact delimiterInduction step delimiter)

/-- A field that is no list has neither a delimiter nor a repetition. -/
structure Single (field : Field) (shape : TypeShape) : Prop where
  shaped : field.type.shape = .ok shape
  kind : shape.kind ≠ .list
  undelimited : field.delimited = none
  unrepeated : field.repetition = none

/-- A list carries no terminal. -/
structure Listed (field : Field) (shape : TypeShape) : Prop where
  shaped : field.type.shape = .ok shape
  kind : shape.kind = .list
  plain : field.terminal? = none

theorem shape_eq_ok_iff {field : Field} {shape : TypeShape} :
    field.shape = .ok shape ↔ field.Single shape ∨ field.Listed shape := by
  unfold Field.shape
  rw [bind_eq_ok_iff]
  constructor
  · intro succeeded
    rcases succeeded with ⟨found, shaped, allowed⟩
    split at allowed <;> rename_i kind <;> split at allowed <;> rename_i settings
    · simp at allowed
    · cases allowed
      exact .inr ⟨shaped, kind, by simpa using settings⟩
    · simp at allowed
    · cases allowed
      exact .inl ⟨shaped, by simp [kind], by simp_all, by simp_all⟩
    · simp at allowed
    · cases allowed
      exact .inl ⟨shaped, by simp [kind], by simp_all, by simp_all⟩
  · intro possible
    rcases possible with single | listed
    · refine ⟨shape, single.shaped, ?_⟩
      have := single.kind
      cases kind : shape.kind <;> simp_all [single.undelimited, single.unrepeated]
    · exact ⟨shape, listed.shaped, by simp [listed.kind, listed.plain]⟩

/-- A field that can be compiled: its type has a shape, its settings fit the shape, and what is not
a terminal names a definition. -/
inductive WellFormed : Field → Prop where
  | single {field : Field} {shape : TypeShape} :
      field.Single shape → (field.terminal?.isSome = true ∨ shape.target.isBare = true) →
      WellFormed field
  | list {field : Field} {shape : TypeShape} :
      field.Listed shape → shape.target.isBare = true →
      (∀ delimiter, field.delimited = some delimiter → WellFormed delimiter) →
      WellFormed field

/-- The ways to compile a field at a path: its entries, its shape and its fragment. -/
inductive Compiles (source : String) :
    String → String → Field → List Entry → TypeShape → Rule → Prop where
  | terminal {path identity : String} {field : Field} {shape : TypeShape} {terminal : Terminal} :
      field.Single shape → field.terminal? = some terminal →
      Compiles source path identity field [⟨path, terminal.rule, source⟩] shape (.symbol path)
  | reference {path identity : String} {field : Field} {shape : TypeShape} {name : String} :
      field.Single shape → field.terminal? = none → shape.target.bareName? = some name →
      Compiles source path identity field [] shape (.symbol name)
  | items {path identity : String} {field : Field} {shape : TypeShape} {name : String} :
      field.Listed shape → field.delimited = none → shape.target.bareName? = some name →
      Compiles source path identity field [] shape
        (.repetition (.field identity (.symbol name)) none field.nonEmpty)
  | delimited {path identity : String} {field delimiter : Field} {shape inner : TypeShape}
      {name : String} {entries : List Entry} {rule : Rule} :
      field.Listed shape → field.delimited = some delimiter →
      Compiles source (path ++ "_delimiter") (identity ++ ".delimiter") delimiter entries inner
        rule →
      shape.target.bareName? = some name →
      Compiles source path identity field entries shape
        (.repetition (.field identity (.symbol name)) (some rule) field.nonEmpty)

/-- The fragment of the delimiter of a field at a path. -/
def delimiterFragment (path source identity : String) (field : Field) :
    Emission SchemaError (Option Rule) :=
  match field.delimited with
  | none => pure none
  | some delimiter => do
    let (_, rule) ← delimiter.fragment (path ++ "_delimiter") source (identity ++ ".delimiter")
    pure (some rule)

/-- The fragment in terms of the parts of the field. -/
theorem fragment_eq (path source identity : String) (field : Field) :
    field.fragment path source identity = (do
      let shape ← Emission.located source identity field.shape
      match shape.kind with
      | .list => do
        let delimiter ← field.delimiterFragment path source identity
        let rule ←
          Emission.located source identity
            (shape.target.listRule identity delimiter field.nonEmpty)
        pure (shape, rule)
      | .direct | .optional => do
        let rule ← field.leafRule path source identity shape.target
        pure (shape, rule)) := by
  rcases field with ⟨name, type, leaf, _ | delimiter, repetition⟩ <;>
    · rw [fragment]
      rfl

theorem leafRule_yields_iff {path source identity : String} {field : Field} {shape : TypeShape}
    {entries : List Entry} {rule : Rule} (single : field.Single shape) :
    (field.leafRule path source identity shape.target).Yields entries rule ↔
      Compiles source path identity field entries shape rule := by
  unfold leafRule
  constructor
  · intro yields
    split at yields <;> rename_i terminal
    · simp only [Emission.yields_bind, Emission.yields_emit, Emission.yields_pure] at yields
      obtain ⟨front, _, back, rfl, ⟨rfl, rfl⟩, rfl⟩ := yields
      exact .terminal single terminal
    · simp only [Emission.yields_bind, Emission.yields_located, Emission.yields_pure] at yields
      obtain ⟨front, name, back, ⟨rfl, named⟩, ⟨rfl, rfl⟩, rfl⟩ := yields
      exact .reference single terminal ((TypeRef.definitionName_target single.shaped).mp named)
  · intro compiles
    cases compiles with
    | terminal _ terminal => simp [terminal]
    | reference _ plain named =>
      have defined := (TypeRef.definitionName_target single.shaped).mpr named
      simp only [plain, Emission.yields_bind, Emission.yields_located, Emission.yields_pure]
      exact ⟨[], _, [], ⟨rfl, defined⟩, ⟨rfl, rfl⟩, rfl⟩
    | items listed | delimited listed =>
      have same := single.shaped.symm.trans listed.shaped
      cases same
      exact absurd listed.kind single.kind

theorem listRule_eq_ok_iff {element : TypeRef} {identity : String} {delimiter : Option Rule}
    {nonEmpty : Bool} {rule : Rule} :
    element.listRule identity delimiter nonEmpty = .ok rule ↔
      ∃ name, element.definitionName = .ok name ∧
        rule = .repetition (.field identity (.symbol name)) delimiter nonEmpty := by
  unfold TypeRef.listRule
  rw [bind_eq_ok_iff]
  simp [pure, Except.pure, eq_comm]

theorem delimiterFragment_yields_of_none {path source identity : String} {field : Field}
    {entries : List Entry} {rule : Option Rule} (between : field.delimited = none) :
    (field.delimiterFragment path source identity).Yields entries rule ↔
      entries = [] ∧ rule = none := by
  simp [delimiterFragment, between, eq_comm]

theorem delimiterFragment_yields_of_some {path source identity : String} {field delimiter : Field}
    {entries : List Entry} {rule : Option Rule} (between : field.delimited = some delimiter) :
    (field.delimiterFragment path source identity).Yields entries rule ↔
      ∃ inner fragment, (delimiter.fragment (path ++ "_delimiter") source
        (identity ++ ".delimiter")).Yields entries (inner, fragment) ∧ rule = some fragment := by
  simp only [delimiterFragment, between, Emission.yields_bind, Emission.yields_pure]
  constructor
  · intro yields
    rcases yields with ⟨front, ⟨inner, fragment⟩, back, compiled, ⟨rfl, rfl⟩, rfl⟩
    exact ⟨inner, fragment, by simpa using compiled, rfl⟩
  · intro conditions
    rcases conditions with ⟨inner, fragment, compiled, rfl⟩
    exact ⟨entries, (inner, fragment), [], compiled, ⟨rfl, rfl⟩, by simp⟩

theorem Single.fragment_eq {field : Field} {shape : TypeShape} (single : field.Single shape)
    (path source identity : String) :
    field.fragment path source identity = (do
      let rule ← field.leafRule path source identity shape.target
      pure (shape, rule)) := by
  have kind := single.kind
  rw [Field.fragment_eq, shape_eq_ok_iff.mpr (.inl single), Emission.located_ok_bind]
  split
  · contradiction
  all_goals rfl

theorem Single.fragment_yields_iff {path source identity : String} {field : Field}
    {shape found : TypeShape} {entries : List Entry} {rule : Rule} (single : field.Single shape) :
    (field.fragment path source identity).Yields entries (found, rule) ↔
      shape = found ∧ (field.leafRule path source identity shape.target).Yields entries rule := by
  simp only [single.fragment_eq, Emission.yields_bind, Emission.yields_pure, Prod.mk.injEq]
  constructor
  · intro yields
    rcases yields with ⟨front, _, back, leaf, ⟨rfl, rfl, rfl⟩, rfl⟩
    exact ⟨rfl, by simpa using leaf⟩
  · intro conditions
    rcases conditions with ⟨rfl, leaf⟩
    exact ⟨entries, rule, [], leaf, ⟨rfl, rfl, rfl⟩, by simp⟩

theorem Listed.fragment_eq {field : Field} {shape : TypeShape} (listed : field.Listed shape)
    (path source identity : String) :
    field.fragment path source identity = (do
      let delimiter ← field.delimiterFragment path source identity
      let rule ←
        Emission.located source identity (shape.target.listRule identity delimiter field.nonEmpty)
      pure (shape, rule)) := by
  rw [Field.fragment_eq, shape_eq_ok_iff.mpr (.inr listed), Emission.located_ok_bind]
  simp only [listed.kind]

theorem Listed.fragment_yields_iff {path source identity : String} {field : Field}
    {shape found : TypeShape} {entries : List Entry} {rule : Rule} (listed : field.Listed shape) :
    (field.fragment path source identity).Yields entries (found, rule) ↔
      shape = found ∧ ∃ delimiter name,
        (field.delimiterFragment path source identity).Yields entries delimiter ∧
        shape.target.bareName? = some name ∧
        rule = .repetition (.field identity (.symbol name)) delimiter field.nonEmpty := by
  simp only [listed.fragment_eq, Emission.yields_bind, Emission.yields_located, Emission.yields_pure,
    listRule_eq_ok_iff, TypeRef.definitionName_target listed.shaped, Prod.mk.injEq]
  constructor
  · rintro ⟨front, delimiter, _, separated, ⟨_, _, _, ⟨rfl, name, bare, rfl⟩, ⟨rfl, rfl, rfl⟩,
      rfl⟩, rfl⟩
    exact ⟨rfl, delimiter, name, by simpa using separated, bare, rfl⟩
  · intro conditions
    rcases conditions with ⟨rfl, delimiter, name, separated, bare, rfl⟩
    exact ⟨entries, delimiter, [], separated,
      ⟨[], _, [], ⟨rfl, name, bare, rfl⟩, ⟨rfl, rfl, rfl⟩, rfl⟩, by simp⟩

/-- A field has a shape that its settings fit whenever it has a fragment. -/
theorem single_or_listed_of_yields {path source identity : String} {field : Field}
    {entries : List Entry} {content : TypeShape × Rule}
    (yields : (field.fragment path source identity).Yields entries content) :
    ∃ shape, field.Single shape ∨ field.Listed shape := by
  rw [fragment_eq, Emission.yields_bind] at yields
  obtain ⟨_, shape, _, located, _, _⟩ := yields
  exact ⟨shape, shape_eq_ok_iff.mp (Emission.yields_located.mp located).2⟩

/-- A field is compiled in one of the four ways, and only then has a fragment. -/
theorem fragment_yields_iff {path source identity : String} {field : Field} {shape : TypeShape}
    {entries : List Entry} {rule : Rule} :
    (field.fragment path source identity).Yields entries (shape, rule) ↔
      Compiles source path identity field entries shape rule := by
  induction field using delimiterInduction
    generalizing path identity shape entries rule with
  | step field inductionHypothesis =>
    constructor
    · intro yields
      obtain ⟨found, single | listed⟩ := single_or_listed_of_yields yields
      · obtain ⟨rfl, leaf⟩ := single.fragment_yields_iff.mp yields
        exact (leafRule_yields_iff single).mp leaf
      · obtain ⟨rfl, between, name, separated, bare, rfl⟩ := listed.fragment_yields_iff.mp yields
        rcases delimited : field.delimited with _ | delimiter
        · obtain ⟨rfl, rfl⟩ := (delimiterFragment_yields_of_none delimited).mp separated
          exact .items listed delimited bare
        · obtain ⟨inner, fragment, compiled, rfl⟩ :=
            (delimiterFragment_yields_of_some delimited).mp separated
          exact .delimited listed delimited ((inductionHypothesis _ delimited).mp compiled) bare
    · intro compiles
      cases compiles with
      | terminal single terminal =>
        exact single.fragment_yields_iff.mpr
          ⟨rfl, (leafRule_yields_iff single).mpr (.terminal single terminal)⟩
      | reference single plain bare =>
        exact single.fragment_yields_iff.mpr
          ⟨rfl, (leafRule_yields_iff single).mpr (.reference single plain bare)⟩
      | items listed delimited bare =>
        exact listed.fragment_yields_iff.mpr ⟨rfl, none, _,
          (delimiterFragment_yields_of_none delimited).mpr ⟨rfl, rfl⟩, bare, rfl⟩
      | delimited listed delimited compiles bare =>
        have compiled := (inductionHypothesis _ delimited).mpr compiles
        exact listed.fragment_yields_iff.mpr ⟨rfl, some _, _,
          (delimiterFragment_yields_of_some delimited).mpr ⟨_, _, compiled, rfl⟩, bare, rfl⟩

/-- A well-formed field is compiled at every path. -/
theorem WellFormed.compiles {field : Field} (wellFormed : field.WellFormed) :
    ∀ source path identity, ∃ entries shape rule,
      Compiles source path identity field entries shape rule := by
  induction wellFormed with
  | @single field shape single complete =>
    intro source path identity
    rcases plain : field.terminal? with _ | terminal
    · have bare : shape.target.isBare = true := by simpa [plain] using complete
      obtain ⟨name, named⟩ := Option.isSome_iff_exists.mp bare
      exact ⟨_, _, _, .reference single plain named⟩
    · exact ⟨_, _, _, .terminal single plain⟩
  | @list field shape listed bare _ inductionHypothesis =>
    intro source path identity
    obtain ⟨name, named⟩ := Option.isSome_iff_exists.mp bare
    rcases delimited : field.delimited with _ | delimiter
    · exact ⟨_, _, _, .items listed delimited named⟩
    · obtain ⟨entries, inner, rule, compiles⟩ := inductionHypothesis delimiter delimited source
        (path ++ "_delimiter") (identity ++ ".delimiter")
      exact ⟨_, _, _, .delimited listed delimited compiles named⟩

theorem Compiles.wellFormed {source path identity : String} {field : Field} {entries : List Entry}
    {shape : TypeShape} {rule : Rule}
    (compiles : Compiles source path identity field entries shape rule) : field.WellFormed := by
  induction compiles with
  | terminal single terminal => exact .single single (.inl (by simp [terminal]))
  | reference single _ named => exact .single single (.inr (by simp [TypeRef.isBare, named]))
  | items listed delimited named =>
    exact .list listed (by simp [TypeRef.isBare, named]) (by simp [delimited])
  | delimited listed delimited _ named inductionHypothesis =>
    refine .list listed (by simp [TypeRef.isBare, named]) ?_
    intro other same
    rw [delimited] at same
    cases same
    exact inductionHypothesis

theorem Compiles.single_or_listed {source path identity : String} {field : Field}
    {entries : List Entry} {shape : TypeShape} {rule : Rule}
    (compiles : Compiles source path identity field entries shape rule) :
    field.Single shape ∨ field.Listed shape := by
  cases compiles with
  | terminal single => exact .inl single
  | reference single => exact .inl single
  | items listed => exact .inr listed
  | delimited listed => exact .inr listed

theorem Compiles.shaped {source path identity : String} {field : Field} {entries : List Entry}
    {shape : TypeShape} {rule : Rule}
    (compiles : Compiles source path identity field entries shape rule) :
    field.type.shape = .ok shape := by
  cases compiles with
  | terminal single | reference single => exact single.shaped
  | items listed | delimited listed => exact listed.shaped

/-- The terminal that a field emits: its own, or that of its delimiter, which lies one level
deeper. -/
def nestedTerminal? : Field → Option (Nat × Terminal)
  | ⟨_, _, leaf, delimited, _⟩ =>
    match leaf.bind Leaf.terminal?, delimited with
    | some terminal, _ => some (0, terminal)
    | none, none => none
    | none, some delimiter =>
      delimiter.nestedTerminal?.map fun (depth, terminal) => (depth + 1, terminal)

/-- The path of the delimiter that lies a number of levels inside the field at a path. -/
def delimiterPath (path : String) : Nat → String
  | 0 => path
  | depth + 1 => delimiterPath path depth ++ "_delimiter"

theorem delimiterPath_delimiter (path : String) (depth : Nat) :
    delimiterPath (path ++ "_delimiter") depth = delimiterPath path (depth + 1) := by
  induction depth with
  | zero => rfl
  | succ depth inductionHypothesis =>
    exact congrArg (· ++ "_delimiter") inductionHypothesis

/-- The entry for the terminal of the field at a path, if it has one. -/
def terminalEntries (path source : String) (field : Field) : List Entry :=
  (field.nestedTerminal?.map fun (depth, terminal) =>
    ⟨delimiterPath path depth, terminal.rule, source⟩).toList

theorem nestedTerminal?_of_terminal {field : Field} {terminal : Terminal}
    (carried : field.terminal? = some terminal) : field.nestedTerminal? = some (0, terminal) := by
  rcases field with ⟨name, type, leaf, delimited, repetition⟩
  rw [nestedTerminal?]
  exact carried

theorem nestedTerminal?_of_plain {field : Field} (plain : field.terminal? = none) :
    field.nestedTerminal? = field.delimited.bind fun delimiter =>
      delimiter.nestedTerminal?.map fun (depth, terminal) => (depth + 1, terminal) := by
  rcases field with ⟨name, type, leaf, _ | delimiter, repetition⟩ <;>
    · unfold terminal? at plain
      simp only [nestedTerminal?, plain]
      rfl

theorem Compiles.entries_eq {source path identity : String} {field : Field} {entries : List Entry}
    {shape : TypeShape} {rule : Rule}
    (compiles : Compiles source path identity field entries shape rule) :
    entries = field.terminalEntries path source := by
  induction compiles with
  | terminal single terminal =>
    simp [terminalEntries, nestedTerminal?_of_terminal terminal, delimiterPath]
  | reference single plain named =>
    simp [terminalEntries, nestedTerminal?_of_plain plain, single.undelimited]
  | items listed delimited named =>
    simp [terminalEntries, nestedTerminal?_of_plain listed.plain, delimited]
  | delimited listed delimited _ named inductionHypothesis =>
    rw [inductionHypothesis]
    simp [terminalEntries, nestedTerminal?_of_plain listed.plain, delimited, Option.map_map,
      Function.comp_def, delimiterPath_delimiter]

end Field

end SchemaGrammar
