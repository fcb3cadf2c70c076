import SchemaGrammar.TypeShape
set_option autoImplicit false

/-!
Types without indirections. What `withoutIndirection` returns is no indirection, so looking through
indirections a second time changes nothing; the target of a shape is such a type. A target
therefore names a definition exactly when it is a bare name.
-/

namespace SchemaGrammar

section Outcome

variable {Error Data Next : Type}

theorem bind_eq_ok_iff {first : Except Error Data} {next : Data → Except Error Next} {data : Next} :
    (first >>= next) = .ok data ↔ ∃ middle, first = .ok middle ∧ next middle = .ok data := by
  cases first <;> simp [bind, Except.bind]

theorem mapError_eq_ok_iff {Other : Type} {convert : Error → Other} {result : Except Error Data}
    {data : Data} : result.mapError convert = .ok data ↔ result = .ok data := by
  constructor
  · intro same
    cases result with
    | error error => cases same
    | ok found =>
      cases same
      rfl
  · intro same
    rw [same]
    rfl

end Outcome

namespace TypeRef

theorem withoutIndirection_of_wrapper?_ne {type : TypeRef}
    (direct : type.wrapper? ≠ some .indirect) : type.withoutIndirection = .ok type := by
  rcases type with ⟨path, args⟩
  unfold withoutIndirection
  split
  · exact absurd (by assumption) direct
  · exact absurd (by assumption) direct
  · rfl

theorem withoutIndirection_single {path : List String} {argument : TypeRef}
    (indirect : wrapper? ⟨path, [argument]⟩ = some .indirect) :
    withoutIndirection ⟨path, [argument]⟩ = argument.withoutIndirection := by
  rw [withoutIndirection]
  exact indirect

/-- No indirection is left. -/
theorem wrapper?_ne_of_withoutIndirection {type target : TypeRef}
    (stripped : type.withoutIndirection = .ok target) : target.wrapper? ≠ some .indirect := by
  fun_induction withoutIndirection type with
  | case1 path argument indirect inductionHypothesis => exact inductionHypothesis stripped
  | case2 path args indirect several => simp at stripped
  | case3 path args direct single =>
    cases stripped
    exact direct

theorem withoutIndirection_idem {type target : TypeRef}
    (stripped : type.withoutIndirection = .ok target) :
    target.withoutIndirection = .ok target :=
  withoutIndirection_of_wrapper?_ne (wrapper?_ne_of_withoutIndirection stripped)

/-- The element of a wrapper, seen through its indirections. -/
theorem withoutIndirection_of_element {wrapper : String} {type target : TypeRef}
    (element : (do
      let argument ← type.singleArgument wrapper
      argument.withoutIndirection) = .ok target) :
    target.withoutIndirection = .ok target := by
  obtain ⟨argument, _, stripped⟩ := bind_eq_ok_iff.mp element
  exact withoutIndirection_idem stripped

/-- The target of a shape is a type without indirections. -/
theorem withoutIndirection_target {type : TypeRef} {shape : TypeShape}
    (shaped : type.shape = .ok shape) : shape.target.withoutIndirection = .ok shape.target := by
  obtain ⟨outer, stripped, classified⟩ := bind_eq_ok_iff.mp shaped
  dsimp only at classified
  split at classified
  · obtain ⟨inner, element, chosen⟩ := bind_eq_ok_iff.mp classified
    split at chosen
    · simp at chosen
    · cases chosen
      exact withoutIndirection_of_element element
  · obtain ⟨inner, element, chosen⟩ := bind_eq_ok_iff.mp classified
    cases chosen
    exact withoutIndirection_of_element element
  · cases classified
    exact withoutIndirection_idem stripped

/-- The target of a shape names a definition when it is a bare name, and never otherwise. -/
theorem definitionName_target {type : TypeRef} {shape : TypeShape} {name : String}
    (shaped : type.shape = .ok shape) :
    shape.target.definitionName = .ok name ↔ shape.target.bareName? = some name := by
  unfold definitionName
  rw [bind_eq_ok_iff]
  constructor
  · intro resolved
    rcases resolved with ⟨target, stripped, named⟩
    rw [withoutIndirection_target shaped] at stripped
    cases stripped
    split at named <;> simp_all
  · intro named
    exact ⟨shape.target, withoutIndirection_target shaped, by simp [named]⟩

end TypeRef

end SchemaGrammar
