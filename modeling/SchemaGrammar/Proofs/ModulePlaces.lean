import Mathlib.Data.List.Basic
import SchemaGrammar.Schema.Modules
set_option autoImplicit false

/-!
The order in which the grammars of a tree of modules are taken. Equal modules may stand at several
places of a tree, so modules are told apart by their places: the steps from the root, each of them
the position of a module among those of its parent. The places that are visited are in the order
`Precedes` (`pairwise_grammarPlaces`): what is inside a module comes before it, and of two modules
in the same one the first comes before the second, each with everything inside it.
-/

namespace SchemaGrammar.SchemaModule

/-- The module at a place. -/
def moduleAt? (root : SchemaModule) : List Nat → Option SchemaModule
  | [] => some root
  | step :: place => root.modules[step]?.bind fun spec => spec.moduleAt? place

mutual

/-- The places of the modules that name a grammar, in the order in which they are visited. -/
def grammarPlaces : SchemaModule → List (List Nat)
  | ⟨_, grammar, _, modules⟩ =>
    grammarPlacesIn 0 modules ++ if grammar.isSome then [[]] else []

def grammarPlacesIn (position : Nat) : List SchemaModule → List (List Nat)
  | [] => []
  | spec :: rest =>
    (grammarPlaces spec).map (position :: ·) ++ grammarPlacesIn (position + 1) rest

end

/-- The order of the places in a tree, each of them behind those inside it. -/
inductive Precedes : List Nat → List Nat → Prop where
  | inside (step : Nat) (place : List Nat) : Precedes (step :: place) []
  | beside {first second : Nat} (place other : List Nat) :
      first < second → Precedes (first :: place) (second :: other)
  | within {place other : List Nat} (step : Nat) :
      Precedes place other → Precedes (step :: place) (step :: other)

/-- The places of the modules that a tree is visited at: all that name a grammar, each once and the
innermost first. -/
structure InnermostFirst (root : SchemaModule) (places : List (List Nat)) : Prop where
  modules : root.grammarModules.map some = places.map root.moduleAt?
  complete : ∀ place, place ∈ places ↔
    ∃ spec, root.moduleAt? place = some spec ∧ spec.grammar.isSome
  distinct : places.Nodup
  /-- A module comes behind those inside it, at whatever depth. -/
  nested : ∀ outer inner, inner ≠ [] → outer ∈ places → outer ++ inner ∈ places →
    List.Sublist [outer ++ inner, outer] places
  /-- All that is in an earlier module comes before all that is in a later one beside it. -/
  siblings : ∀ parent first second inner inner', first < second →
    parent ++ first :: inner ∈ places → parent ++ second :: inner' ∈ places →
    List.Sublist [parent ++ first :: inner, parent ++ second :: inner'] places

namespace Precedes

variable {place other : List Nat}

theorem asymm (precedes : Precedes place other) : ¬ Precedes other place := by
  intro reversed
  induction precedes with
  | inside => cases reversed
  | beside _ _ first =>
    cases reversed with
    | beside _ _ second => exact Nat.lt_asymm first second
    | within => exact Nat.lt_irrefl _ first
  | within _ _ inductionHypothesis =>
    cases reversed with
    | beside _ _ second => exact Nat.lt_irrefl _ second
    | within _ reversed => exact inductionHypothesis reversed

theorem append_left (parent : List Nat) (precedes : Precedes place other) :
    Precedes (parent ++ place) (parent ++ other) := by
  induction parent with
  | nil => exact precedes
  | cons step parent inductionHypothesis => exact .within step inductionHypothesis

/-- Of two places in a list that is in order, the one that precedes the other comes first. -/
theorem sublist {places : List (List Nat)} (precedes : Precedes place other)
    (ordered : places.Pairwise Precedes) (first : place ∈ places) (second : other ∈ places) :
    List.Sublist [place, other] places := by
  obtain ⟨front, back, rfl⟩ := List.append_of_mem first
  rcases List.mem_append.mp second with before | second
  · have reversed := (List.pairwise_append.mp ordered).2.2 other before place List.mem_cons_self
    exact absurd reversed precedes.asymm
  · rcases List.mem_cons.mp second with rfl | behind
    · exact absurd precedes precedes.asymm
    · have sublist := (List.singleton_sublist.mpr behind).cons_cons place
      exact sublist.trans (List.sublist_append_right front _)

end Precedes

/-- The places inside a list of modules, from a position on. -/
theorem mem_grammarPlacesIn_iff {modules : List SchemaModule} {position : Nat}
    {place : List Nat} :
    place ∈ grammarPlacesIn position modules ↔
      ∃ index inner spec, place = (position + index) :: inner ∧ modules[index]? = some spec ∧
        inner ∈ grammarPlaces spec := by
  induction modules generalizing position with
  | nil => simp [grammarPlacesIn]
  | cons spec modules inductionHypothesis =>
    rw [grammarPlacesIn, List.mem_append, List.mem_map, inductionHypothesis]
    constructor
    · rintro (⟨inner, member, rfl⟩ | ⟨index, inner, other, rfl, found, member⟩)
      · exact ⟨0, inner, spec, rfl, rfl, member⟩
      · exact ⟨index + 1, inner, other, by rw [Nat.add_assoc, Nat.add_comm 1], found, member⟩
    · rintro ⟨_ | index, inner, other, rfl, found, member⟩
      · cases found
        exact .inl ⟨inner, member, rfl⟩
      · exact .inr ⟨index, inner, other, by rw [Nat.add_assoc, Nat.add_comm 1], found, member⟩

/-- Just the places of modules that name a grammar are visited. -/
theorem mem_grammarPlaces_iff {root : SchemaModule} {place : List Nat} :
    place ∈ root.grammarPlaces ↔
      ∃ spec, root.moduleAt? place = some spec ∧ spec.grammar.isSome := by
  -- The induction goes down the place, and with it from a module to one of those inside.
  induction place generalizing root with
  | nil =>
    obtain ⟨name, grammar, definitions, modules⟩ := root
    have outer : [] ∉ grammarPlacesIn 0 modules := by
      rw [mem_grammarPlacesIn_iff]
      rintro ⟨_, _, _, nothing, _⟩
      cases nothing
    cases grammar <;> simp [grammarPlaces, moduleAt?, outer]
  | cons step place inductionHypothesis =>
    obtain ⟨name, grammar, definitions, modules⟩ := root
    have inner : step :: place ∈ grammarPlaces ⟨name, grammar, definitions, modules⟩ ↔
        step :: place ∈ grammarPlacesIn 0 modules := by
      cases grammar <;> simp [grammarPlaces]
    rw [inner, mem_grammarPlacesIn_iff]
    simp only [Nat.zero_add, moduleAt?, Option.bind_eq_some_iff]
    constructor
    · rintro ⟨_, _, spec, same, found, member⟩
      obtain ⟨rfl, rfl⟩ := List.cons.inj same
      obtain ⟨last, reached, named⟩ := inductionHypothesis.mp member
      exact ⟨last, ⟨spec, found, reached⟩, named⟩
    · rintro ⟨last, ⟨spec, found, reached⟩, named⟩
      exact ⟨step, place, spec, rfl, found, inductionHypothesis.mpr ⟨last, reached, named⟩⟩

mutual

/-- The places are visited in order. -/
theorem pairwise_grammarPlaces : ∀ root : SchemaModule, root.grammarPlaces.Pairwise Precedes
  | ⟨name, grammar, definitions, modules⟩ => by
    rw [grammarPlaces, List.pairwise_append]
    refine ⟨pairwise_grammarPlacesIn 0 modules, by split <;> simp, ?_⟩
    intro place member root last
    obtain ⟨index, inner, _, rfl, _⟩ := mem_grammarPlacesIn_iff.mp member
    split at last
    · rw [List.mem_singleton.mp last]
      exact .inside _ inner
    · simp at last

theorem pairwise_grammarPlacesIn : ∀ (position : Nat) (modules : List SchemaModule),
    (grammarPlacesIn position modules).Pairwise Precedes
  | _, [] => .nil
  | position, spec :: rest => by
    rw [grammarPlacesIn, List.pairwise_append, List.pairwise_map]
    refine ⟨(pairwise_grammarPlaces spec).imp (.within position),
      pairwise_grammarPlacesIn (position + 1) rest, ?_⟩
    intro place first other second
    obtain ⟨inner, _, rfl⟩ := List.mem_map.mp first
    obtain ⟨index, inner', _, rfl, _⟩ := mem_grammarPlacesIn_iff.mp second
    exact .beside inner inner' (by omega)

end

mutual

/-- The modules that are visited stand at the places that are visited. -/
theorem map_grammarModules : ∀ root : SchemaModule,
    root.grammarModules.map some = root.grammarPlaces.map root.moduleAt?
  | ⟨name, grammar, definitions, modules⟩ => by
    have inside := map_grammarModulesIn ⟨name, grammar, definitions, modules⟩ [] modules rfl
    rw [grammarModules, grammarPlaces, List.map_append, List.map_append, inside, List.length_nil]
    split <;> rfl

theorem map_grammarModulesIn (root : SchemaModule) :
    ∀ before modules : List SchemaModule, root.modules = before ++ modules →
      (grammarModulesIn modules).map some =
        (grammarPlacesIn before.length modules).map root.moduleAt?
  | _, [], _ => rfl
  | before, spec :: rest, parts => by
    have behind := map_grammarModulesIn root (before ++ [spec]) rest (by simpa using parts)
    rw [List.length_append, List.length_singleton] at behind
    have step : ∀ place, root.moduleAt? (before.length :: place) = spec.moduleAt? place := by
      intro place
      simp [moduleAt?, parts]
    rw [grammarModulesIn, grammarPlacesIn, List.map_append, List.map_append, behind,
      map_grammarModules spec, List.map_map]
    congr 1
    exact List.map_congr_left fun place _ => (step place).symm

end

/-- Every module that names a grammar is visited once, the innermost first. -/
theorem grammarModules_innermost_first (root : SchemaModule) :
    ∃ places, InnermostFirst root places := by
  have ordered := pairwise_grammarPlaces root
  refine ⟨root.grammarPlaces, ?_⟩
  constructor
  case modules => exact map_grammarModules root
  case complete => exact fun place => mem_grammarPlaces_iff
  case distinct =>
    refine ordered.imp ?_
    rintro place _ precedes rfl
    exact precedes.asymm precedes
  case nested =>
    intro outer inner nonempty last first
    obtain ⟨step, place, rfl⟩ := List.exists_cons_of_ne_nil nonempty
    have precedes := Precedes.append_left outer (.inside step place)
    rw [List.append_nil] at precedes
    exact precedes.sublist ordered first last
  case siblings =>
    intro parent first second inner inner' less member member'
    exact (Precedes.append_left parent (.beside inner inner' less)).sublist ordered member member'

end SchemaGrammar.SchemaModule
