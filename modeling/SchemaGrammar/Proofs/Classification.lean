import SchemaGrammar.Proofs.Shape
set_option autoImplicit false

/-!
What the shape of a type says about the type. A `Reading` takes a type apart: indirections around an
option, a list or something else, and further indirections inside the option or the list. It only
has targets that a shape may have. No two readings are of one type (`Reading.type_injective`), a
type with a reading has the shape that the reading says, and a type without one has none.
-/

namespace SchemaGrammar

/-- A name that stands for a wrapper. -/
abbrev NameOf (wrapper : Wrapper) := { name : String // Wrapper.ofName? name = some wrapper }

namespace TypeRef

/-- A name with one argument. -/
def applied (name : String) (argument : TypeRef) : TypeRef := ⟨[name], [argument]⟩

/-- A type inside indirections, the outermost of which comes first. -/
def boxed (names : List (NameOf .indirect)) (type : TypeRef) : TypeRef :=
  names.foldr (fun name => applied name.val) type

/-- A type as the layers around a target. -/
inductive Reading where
  | direct (outer : List (NameOf .indirect)) (target : TypeRef) (plain : target.wrapper? = none)
  | optional (outer : List (NameOf .indirect)) (name : NameOf .optional)
      (inner : List (NameOf .indirect)) (target : TypeRef)
      (bare : target.wrapper? ≠ some .indirect) (notList : target.wrapper? ≠ some .list)
  | list (outer : List (NameOf .indirect)) (name : NameOf .list)
      (inner : List (NameOf .indirect)) (target : TypeRef)
      (bare : target.wrapper? ≠ some .indirect)

namespace Reading

/-- The type that is read. -/
def type : Reading → TypeRef
  | .direct outer target _ => boxed outer target
  | .optional outer name inner target _ _ => boxed outer (applied name.val (boxed inner target))
  | .list outer name inner target _ => boxed outer (applied name.val (boxed inner target))

def shape : Reading → TypeShape
  | .direct _ target _ => ⟨.direct, target⟩
  | .optional _ _ _ target _ _ => ⟨.optional, target⟩
  | .list _ _ _ target _ => ⟨.list, target⟩

end Reading

theorem wrapper?_applied {wrapper : Wrapper} (name : NameOf wrapper) (argument : TypeRef) :
    (applied name.val argument).wrapper? = some wrapper := name.property

theorem applied_injective {name other : String} {argument otherArgument : TypeRef}
    (same : applied name argument = applied other otherArgument) :
    name = other ∧ argument = otherArgument := by
  simpa [applied] using same

theorem applied_ne {wrapper : Wrapper} {type : TypeRef} (other : type.wrapper? ≠ some wrapper)
    (name : NameOf wrapper) (argument : TypeRef) : applied name.val argument ≠ type := by
  intro same
  apply other
  rw [← same]
  exact wrapper?_applied name argument

theorem singleArgument_eq_ok_iff {word : String} {type argument : TypeRef} :
    type.singleArgument word = .ok argument ↔ type.args = [argument] := by
  unfold singleArgument
  split <;> simp_all

theorem eq_applied_of_wrapper? {type argument : TypeRef} {wrapper : Wrapper}
    (wraps : type.wrapper? = some wrapper) (single : type.args = [argument]) :
    ∃ name : NameOf wrapper, type = applied name.val argument := by
  rcases type with ⟨_ | ⟨name, _ | ⟨second, path⟩⟩, args⟩
  · simp [wrapper?] at wraps
  · cases single
    exact ⟨⟨name, wraps⟩, rfl⟩
  · simp [wrapper?] at wraps

/-- Indirections are looked through one after the other. -/
theorem withoutIndirection_boxed (names : List (NameOf .indirect)) {target : TypeRef}
    (bare : target.wrapper? ≠ some .indirect) :
    (boxed names target).withoutIndirection = .ok target := by
  induction names with
  | nil => exact withoutIndirection_of_wrapper?_ne bare
  | cons name names inductionHypothesis =>
    exact (withoutIndirection_single (wrapper?_applied name _)).trans inductionHypothesis

theorem exists_boxed_of_withoutIndirection {type target : TypeRef}
    (stripped : type.withoutIndirection = .ok target) : ∃ names, type = boxed names target := by
  fun_induction withoutIndirection type with
  | case1 path argument indirect inductionHypothesis =>
    obtain ⟨names, rfl⟩ := inductionHypothesis stripped
    obtain ⟨name, same⟩ := eq_applied_of_wrapper? indirect rfl
    exact ⟨name :: names, same⟩
  | case2 path args indirect several => simp at stripped
  | case3 path args direct single =>
    cases stripped
    exact ⟨[], rfl⟩

/-- The indirections around a type that is none are found again. -/
theorem boxed_injective {names others : List (NameOf .indirect)} {target other : TypeRef}
    (bare : target.wrapper? ≠ some .indirect) (otherBare : other.wrapper? ≠ some .indirect)
    (same : boxed names target = boxed others other) : names = others ∧ target = other := by
  induction names generalizing others with
  | nil =>
    rcases others with _ | ⟨name, others⟩
    · exact ⟨rfl, same⟩
    · exact absurd same.symm (applied_ne bare name _)
  | cons name names inductionHypothesis =>
    rcases others with _ | ⟨name', others⟩
    · exact absurd same (applied_ne otherBare name _)
    · obtain ⟨first, inside⟩ := applied_injective same
      obtain ⟨rfl, targets⟩ := inductionHypothesis inside
      rw [Subtype.ext first]
      exact ⟨rfl, targets⟩

/-- The layers of a wrapper around a type that is no indirection are found again. -/
theorem applied_boxed_injective {wrapper : Wrapper} {name otherName : NameOf wrapper}
    {inner others : List (NameOf .indirect)} {target other : TypeRef}
    (bare : target.wrapper? ≠ some .indirect) (otherBare : other.wrapper? ≠ some .indirect)
    (same : applied name.val (boxed inner target) = applied otherName.val (boxed others other)) :
    name = otherName ∧ inner = others ∧ target = other := by
  obtain ⟨names, inside⟩ := applied_injective same
  exact ⟨Subtype.ext names, boxed_injective bare otherBare inside⟩

namespace Reading

/-- The indirections around the whole type. -/
def outer : Reading → List (NameOf .indirect)
  | .direct outer _ _ | .optional outer _ _ _ _ _ | .list outer _ _ _ _ => outer

/-- The type inside the outermost indirections. -/
def core : Reading → TypeRef
  | .direct _ target _ => target
  | .optional _ name inner target _ _ => applied name.val (boxed inner target)
  | .list _ name inner target _ => applied name.val (boxed inner target)

theorem type_eq (reading : Reading) : reading.type = boxed reading.outer reading.core := by
  cases reading <;> rfl

theorem wrapper?_core (reading : Reading) : reading.core.wrapper? ≠ some .indirect := by
  cases reading with
  | direct _ _ plain => simp [core, plain]
  | optional _ name => simp [core, wrapper?_applied name]
  | list _ name => simp [core, wrapper?_applied name]

/-- The layers around a target can be told from the type. -/
theorem type_injective {reading other : Reading} (same : reading.type = other.type) :
    reading = other := by
  rw [type_eq, type_eq] at same
  obtain ⟨outside, cores⟩ := boxed_injective reading.wrapper?_core other.wrapper?_core same
  cases reading with
  | direct _ target plain =>
    cases other with
    | direct =>
      change target = _ at cores
      subst outside cores
      rfl
    | optional _ name | list _ name =>
      exact absurd cores.symm (applied_ne (by simp [core, plain]) name _)
  | optional _ name inner target bare =>
    cases other with
    | direct _ found plain => exact absurd cores (applied_ne (by simp [core, plain]) name _)
    | optional _ _ _ _ otherBare =>
      obtain ⟨rfl, rfl, rfl⟩ := applied_boxed_injective bare otherBare cores
      subst outside
      rfl
    | list _ otherName =>
      exact absurd cores (applied_ne (by simp [core, wrapper?_applied otherName]) name _)
  | list _ name inner target bare =>
    cases other with
    | direct _ found plain => exact absurd cores (applied_ne (by simp [core, plain]) name _)
    | optional _ otherName =>
      exact absurd cores (applied_ne (by simp [core, wrapper?_applied otherName]) name _)
    | list _ _ _ _ otherBare =>
      obtain ⟨rfl, rfl, rfl⟩ := applied_boxed_injective bare otherBare cores
      subst outside
      rfl

/-- A type that can be read has the shape of its reading. -/
theorem shape_type (reading : Reading) : reading.type.shape = .ok reading.shape := by
  have stripped : reading.type.withoutIndirection = .ok reading.core := by
    rw [type_eq]
    exact withoutIndirection_boxed _ reading.wrapper?_core
  refine bind_eq_ok_iff.mpr ⟨reading.core, stripped, ?_⟩
  cases reading with
  | direct outer target plain =>
    simp only [core, plain]
    rfl
  | optional outer name inner target bare notList =>
    simp only [core, wrapper?_applied]
    exact bind_eq_ok_iff.mpr ⟨target, withoutIndirection_boxed inner bare, if_neg notList⟩
  | list outer name inner target bare =>
    simp only [core, wrapper?_applied]
    exact bind_eq_ok_iff.mpr ⟨target, withoutIndirection_boxed inner bare, rfl⟩

end Reading

/-- The layers of a wrapper whose element is found. -/
theorem exists_applied_of_element {word : String} {type target : TypeRef} {wrapper : Wrapper}
    (wraps : type.wrapper? = some wrapper)
    (element : (do
      let argument ← type.singleArgument word
      argument.withoutIndirection) = .ok target) :
    ∃ (name : NameOf wrapper) (inner : List (NameOf .indirect)),
      type = applied name.val (boxed inner target) := by
  obtain ⟨argument, single, stripped⟩ := bind_eq_ok_iff.mp element
  obtain ⟨inner, rfl⟩ := exists_boxed_of_withoutIndirection stripped
  obtain ⟨name, same⟩ := eq_applied_of_wrapper? wraps (singleArgument_eq_ok_iff.mp single)
  exact ⟨name, inner, same⟩

/-- A type that has a shape can be read. -/
theorem exists_reading_of_shape {type : TypeRef} {shape : TypeShape}
    (shaped : type.shape = .ok shape) :
    ∃ reading : Reading, reading.type = type ∧ reading.shape = shape := by
  have bare := wrapper?_ne_of_withoutIndirection (withoutIndirection_target shaped)
  obtain ⟨core, stripped, classified⟩ := bind_eq_ok_iff.mp shaped
  obtain ⟨outer, rfl⟩ := exists_boxed_of_withoutIndirection stripped
  dsimp only at classified
  split at classified <;> rename_i kind
  · obtain ⟨target, element, chosen⟩ := bind_eq_ok_iff.mp classified
    obtain ⟨name, inner, rfl⟩ := exists_applied_of_element kind element
    split at chosen <;> rename_i listed
    · simp at chosen
    · cases chosen
      exact ⟨.optional outer name inner target bare listed, rfl, rfl⟩
  · obtain ⟨target, element, chosen⟩ := bind_eq_ok_iff.mp classified
    obtain ⟨name, inner, rfl⟩ := exists_applied_of_element kind element
    cases chosen
    exact ⟨.list outer name inner target bare, rfl, rfl⟩
  · cases classified
    have plain : core.wrapper? = none := by
      rcases found : core.wrapper? with _ | wrapper
      · rfl
      · cases wrapper <;> simp_all
    exact ⟨.direct outer core plain, rfl, rfl⟩

theorem shape_eq_ok_iff {type : TypeRef} {shape : TypeShape} :
    type.shape = .ok shape ↔ ∃ reading : Reading, reading.type = type ∧ reading.shape = shape := by
  constructor
  · exact exists_reading_of_shape
  · intro read
    rcases read with ⟨reading, rfl, rfl⟩
    exact reading.shape_type

/-- The shape of a type is the one of its only reading, and its target is no indirection. A type
that cannot be read is an error at the rule and the field that it was declared for. -/
theorem shape_classifies_exactly (type : TypeRef) (rule : String) (field : Option String) :
    (∀ shape, type.shape.mapError (SchemaError.atRule rule field) = .ok shape ↔
      ∃ reading : Reading, reading.type = type ∧ reading.shape = shape) ∧
    (∀ reading other : Reading, reading.type = type → other.type = type → reading = other) ∧
    ((∀ reading : Reading, reading.type ≠ type) →
      ∃ error, type.shape.mapError (SchemaError.atRule rule field) = .error error ∧
        error.context = Context.ofRule rule field) ∧
    ∀ shape, type.shape = .ok shape → shape.target.withoutIndirection = .ok shape.target := by
  refine ⟨?_, ?_, ?_, fun shape shaped => withoutIndirection_target shaped⟩
  · intro shape
    rw [mapError_eq_ok_iff, shape_eq_ok_iff]
  · intro reading other read readAgain
    exact Reading.type_injective (read.trans readAgain.symm)
  · intro unread
    rcases shaped : type.shape with fault | shape
    · exact ⟨.atRule rule field fault, rfl, rfl⟩
    · obtain ⟨reading, read, _⟩ := exists_reading_of_shape shaped
      exact absurd read (unread reading)

end TypeRef

end SchemaGrammar
