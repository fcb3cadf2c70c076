import SchemaGrammar.Proofs.Fragment
set_option autoImplicit false

/-!
Wrappers on the way from a declared type to the definition that it refers to. All types on the way
but the last are wrappers of one argument, and the last is the name of the definition. The number of
arguments is looked at for indirections and for one option or list. What stands inside that option
or list only has to be a bare name, and so the name of a wrapper without an argument passes there.
-/

namespace SchemaGrammar

/-- The wrappers whose names pass for definitions in the target of a shape. -/
def ShapeKind.unchecked : ShapeKind → List Wrapper
  | .direct => []
  | .optional => [.optional]
  | .list => [.optional, .list]

namespace TypeRef

/-- A wrapper with exactly one argument. -/
structure Wraps (type : TypeRef) : Prop where
  wrapper : type.wrapper?.isSome = true
  single : type.args.length = 1

/-- A wrapper with any other number of arguments. -/
structure Misused (type : TypeRef) : Prop where
  wrapper : type.wrapper?.isSome = true
  notSingle : type.args.length ≠ 1

theorem Wraps.not_misused {type : TypeRef} (wraps : type.Wraps) : ¬ type.Misused :=
  fun misused => misused.notSingle wraps.single

/-- A bare name is misused exactly when it is that of a wrapper. -/
theorem misused_bare_iff {name : String} :
    (TypeRef.mk [name] []).Misused ↔ Wrapper.ofName? name ≠ none := by
  rw [Option.ne_none_iff_isSome]
  constructor
  · intro misused
    exact misused.wrapper
  · intro wrapper
    exact ⟨wrapper, by simp⟩

/-- The types that are met from a type on: the type itself and, if it is a wrapper of one argument,
those that are met from the argument on. -/
def way : TypeRef → List TypeRef
  | ⟨path, args⟩ =>
    ⟨path, args⟩ ::
      match TypeRef.wrapper? ⟨path, args⟩, args with
      | some _, [argument] => way argument
      | _, _ => []

theorem way_of_isSome {path : List String} {argument : TypeRef}
    (wrapper : (TypeRef.mk path [argument]).wrapper?.isSome = true) :
    way ⟨path, [argument]⟩ = ⟨path, [argument]⟩ :: way argument := by
  obtain ⟨kind, same⟩ := Option.isSome_iff_exists.mp wrapper
  simp [way, same]

theorem eq_of_bareName? {type : TypeRef} {name : String} (bare : type.bareName? = some name) :
    type = ⟨[name], []⟩ := by
  rcases type with ⟨path, args⟩
  unfold bareName? at bare
  split at bare <;> simp_all

/-- The layers around a type are wrappers of one argument that lead to it. -/
def Leads (type : TypeRef) (layers : List TypeRef) (target : TypeRef) : Prop :=
  type.way = layers ++ target.way ∧ ∀ layer ∈ layers, layer.Wraps

theorem leads_nil (type : TypeRef) : type.Leads [] type := ⟨rfl, by simp⟩

theorem Leads.cons {path : List String} {argument target : TypeRef} {layers : List TypeRef}
    (wrapper : (TypeRef.mk path [argument]).wrapper?.isSome = true)
    (leads : argument.Leads layers target) :
    Leads ⟨path, [argument]⟩ (⟨path, [argument]⟩ :: layers) target := by
  obtain ⟨followed, wrapping⟩ := leads
  refine ⟨?_, List.forall_mem_cons.mpr ⟨⟨wrapper, rfl⟩, wrapping⟩⟩
  rw [way_of_isSome wrapper, followed, List.cons_append]

theorem Leads.trans {type middle target : TypeRef} {outer inner : List TypeRef}
    (first : type.Leads outer middle) (second : middle.Leads inner target) :
    type.Leads (outer ++ inner) target := by
  refine ⟨by rw [first.1, second.1, List.append_assoc], ?_⟩
  intro layer member
  rcases List.mem_append.mp member with member | member
  · exact first.2 layer member
  · exact second.2 layer member

theorem leads_of_withoutIndirection {type target : TypeRef}
    (stripped : type.withoutIndirection = .ok target) : ∃ layers, type.Leads layers target := by
  fun_induction withoutIndirection type with
  | case1 path argument indirect inductionHypothesis =>
    obtain ⟨layers, leads⟩ := inductionHypothesis stripped
    exact ⟨_, leads.cons (by simp [indirect])⟩
  | case2 path args indirect several => simp at stripped
  | case3 path args direct single =>
    cases stripped
    exact ⟨[], leads_nil _⟩

/-- A wrapper whose element is asked for has one argument. -/
theorem leads_of_element {name : String} {type target : TypeRef} {wrapper : Wrapper}
    (wraps : type.wrapper? = some wrapper)
    (element : (do
      let argument ← type.singleArgument name
      argument.withoutIndirection) = .ok target) : ∃ layers, type.Leads layers target := by
  obtain ⟨argument, single, stripped⟩ := bind_eq_ok_iff.mp element
  obtain ⟨layers, leads⟩ := leads_of_withoutIndirection stripped
  rcases type with ⟨path, args⟩
  unfold singleArgument at single
  split at single
  · rename_i only
    cases single
    cases only
    exact ⟨_, leads.cons (by simp [wraps])⟩
  · simp at single

/-- All types around the target of a shape are wrappers of one argument, and of the wrappers only
those that are not checked can be the target. -/
theorem leads_of_shape {type : TypeRef} {shape : TypeShape} (shaped : type.shape = .ok shape) :
    (∃ layers, type.Leads layers shape.target) ∧
      ∀ wrapper, shape.target.wrapper? = some wrapper → wrapper ∈ shape.kind.unchecked := by
  have direct := wrapper?_ne_of_withoutIndirection (withoutIndirection_target shaped)
  obtain ⟨outer, stripped, classified⟩ := bind_eq_ok_iff.mp shaped
  obtain ⟨indirections, outside⟩ := leads_of_withoutIndirection stripped
  dsimp only at classified
  split at classified <;> rename_i kind
  · obtain ⟨inner, element, chosen⟩ := bind_eq_ok_iff.mp classified
    obtain ⟨layers, inside⟩ := leads_of_element kind element
    split at chosen <;> rename_i listed
    · simp at chosen
    · cases chosen
      refine ⟨⟨_, outside.trans inside⟩, ?_⟩
      intro wrapper found
      cases wrapper <;> simp_all [ShapeKind.unchecked]
  · obtain ⟨inner, element, chosen⟩ := bind_eq_ok_iff.mp classified
    obtain ⟨layers, inside⟩ := leads_of_element kind element
    cases chosen
    refine ⟨⟨_, outside.trans inside⟩, ?_⟩
    intro wrapper found
    cases wrapper <;> simp_all [ShapeKind.unchecked]
  · cases classified
    refine ⟨⟨_, outside⟩, ?_⟩
    intro wrapper found
    cases wrapper <;> simp_all

end TypeRef

/-- A field without a terminal refers to a name. All types on the way from its type to that name are
wrappers of one argument. The name itself can be that of a wrapper, which then has no argument at
all: that of an option as the element of an option, and that of an option or a list as the element
of a list. -/
theorem Field.wrappers_of_fragment {field : Field} {path source identity : String}
    {entries : List Entry} {shape : TypeShape} {rule : Rule} (plain : field.terminal? = none)
    (yields : (field.fragment path source identity).Yields entries (shape, rule)) :
    ∃ layers name, field.type.way = layers ++ [⟨[name], []⟩] ∧
      (∀ layer ∈ layers, layer.Wraps) ∧
      (rule = .symbol name ∨ ∃ delimiter,
        rule = .repetition (.field identity (.symbol name)) delimiter field.nonEmpty) ∧
      ((∀ type ∈ field.type.way, ¬ type.Misused) ↔ Wrapper.ofName? name = none) ∧
      ∀ wrapper, Wrapper.ofName? name = some wrapper → wrapper ∈ shape.kind.unchecked := by
  have compiles := fragment_yields_iff.mp yields
  obtain ⟨name, shaped, bare, refers⟩ : ∃ name, field.type.shape = .ok shape ∧
      shape.target.bareName? = some name ∧
      (rule = .symbol name ∨ ∃ delimiter,
        rule = .repetition (.field identity (.symbol name)) delimiter field.nonEmpty) := by
    cases compiles with
    | terminal single terminal => simp [plain] at terminal
    | reference single _ bare => exact ⟨_, single.shaped, bare, .inl rfl⟩
    | items listed _ bare => exact ⟨_, listed.shaped, bare, .inr ⟨_, rfl⟩⟩
    | delimited listed _ _ bare => exact ⟨_, listed.shaped, bare, .inr ⟨_, rfl⟩⟩
  obtain ⟨⟨layers, followed, wrapping⟩, unchecked⟩ := TypeRef.leads_of_shape shaped
  have target := TypeRef.eq_of_bareName? bare
  have last : shape.target.way = [⟨[name], []⟩] := by simp [target, TypeRef.way]
  rw [last] at followed
  refine ⟨layers, name, followed, wrapping, refers, ?_, ?_⟩
  · constructor
    · intro proper
      refine Classical.byContradiction fun wrapper => ?_
      exact proper ⟨[name], []⟩ (by simp [followed]) (TypeRef.misused_bare_iff.mpr wrapper)
    · intro other type member
      rw [followed] at member
      rcases List.mem_append.mp member with layer | last
      · exact (wrapping type layer).not_misused
      · rw [List.mem_singleton.mp last, TypeRef.misused_bare_iff]
        simp [other]
  · rw [target] at unchecked
    exact unchecked

/-- A list in a box, whose items are boxed as well. -/
def boxedItems : Field :=
  ⟨some "items", ⟨["Box"], [⟨["Vec"], [⟨["Box"], [⟨["Item"], []⟩]⟩]⟩]⟩, none, none, none⟩

theorem boxedItems_wrappers :
    boxedItems.terminal? = none ∧
      (∃ shape rule, (boxedItems.fragment "Block_items" "Block" "items").Yields [] (shape, rule)) ∧
      ∀ type ∈ boxedItems.type.way, ¬ type.Misused := by
  have plain : boxedItems.terminal? = none := rfl
  have yields : (boxedItems.fragment "Block_items" "Block" "items").Yields [] (_, _) := rfl
  obtain ⟨layers, name, followed, _, _, proper, _⟩ := Field.wrappers_of_fragment plain yields
  have last := congrArg List.getLast? followed
  rw [List.getLast?_concat] at last
  cases last
  exact ⟨plain, ⟨_, _, yields⟩, proper.mpr rfl⟩

/-- The name of an option passes for that of a definition as the element of a list. -/
theorem wrappers_slip_through :
    ¬ ∀ (field : Field) (path source identity : String) (entries : List Entry) (shape : TypeShape)
        (rule : Rule), field.terminal? = none →
        (field.fragment path source identity).Yields entries (shape, rule) →
        ∀ type ∈ field.type.way, ¬ type.Misused := by
  intro proper
  have slips := proper ⟨none, ⟨["Vec"], [⟨["Option"], []⟩]⟩, none, none, none⟩ "R_0" "R" "0" []
    ⟨.list, ⟨["Option"], []⟩⟩ (.repeat (.field "0" (.symbol "Option"))) rfl rfl
  exact slips ⟨["Option"], []⟩ (.tail _ (.head _)) ⟨rfl, by simp⟩

end SchemaGrammar
