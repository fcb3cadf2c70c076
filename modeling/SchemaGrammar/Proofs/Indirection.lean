import Mathlib.Data.List.Forall2
import SchemaGrammar.Proofs.Fragment
import SchemaGrammar.Schema.Compile
set_option autoImplicit false

/-!
Indirections mean nothing for a grammar. `Indirected` relates a type to the same type with further
indirections around any of its parts, and carries over to fields and definitions. Compiling related
definitions takes the same way: the same rules are emitted in the same order, and both runs end
with the same grammar or both with a fault. The faults differ, for they show the types as written.
-/

namespace SchemaGrammar

/-- Two runs end alike: both with related data, or both with a fault. -/
inductive EndAlike {Error First Second : Type} (related : First → Second → Prop) :
    Except Error First → Except Error Second → Prop where
  | ok {first : First} {second : Second} :
      related first second → EndAlike related (.ok first) (.ok second)
  | error {fault other : Error} : EndAlike related (.error fault) (.error other)

namespace EndAlike

variable {Error Other First Second Left Right : Type} {related : First → Second → Prop}
  {next : Left → Right → Prop}

theorem bind {first : Except Error First} {second : Except Error Second}
    {left : First → Except Error Left} {right : Second → Except Error Right}
    (opening : EndAlike related first second)
    (closing : ∀ data other, related data other → EndAlike next (left data) (right other)) :
    EndAlike next (first >>= left) (second >>= right) := by
  cases opening with
  | ok same => exact closing _ _ same
  | error => exact .error

theorem mapError {first : Except Error First} {second : Except Error Second}
    (convert : Error → Other) (alike : EndAlike related first second) :
    EndAlike related (first.mapError convert) (second.mapError convert) := by
  cases alike with
  | ok same => exact .ok same
  | error => exact .error

theorem refl (result : Except Error First) : EndAlike Eq result result := by
  cases result with
  | ok data => exact .ok rfl
  | error fault => exact .error

theorem eq_ok_iff {first second : Except Error First} (alike : EndAlike Eq first second)
    (data : First) : first = .ok data ↔ second = .ok data := by
  cases alike with
  | ok same => rw [same]
  | error => simp

end EndAlike

namespace Emission

variable {Error Other First Second Left Right : Type} {related : First → Second → Prop}
  {next : Left → Right → Prop}

/-- Two emissions have the same entries and end alike. -/
structure Alike (related : First → Second → Prop) (first : Emission Error First)
    (second : Emission Error Second) : Prop where
  entries : first.entries = second.entries
  result : EndAlike related first.result second.result

theorem Alike.pure {data : First} {other : Second} (same : related data other) :
    Alike related (Pure.pure data : Emission Error First) (Pure.pure other) :=
  ⟨rfl, .ok same⟩

theorem Alike.refl (emission : Emission Error First) : Alike Eq emission emission :=
  ⟨rfl, .refl _⟩

theorem Alike.located {first : Except SchemaFault First} {second : Except SchemaFault Second}
    (rule : String) (field : Option String) (alike : EndAlike related first second) :
    Alike related (located rule field first) (located rule field second) :=
  ⟨rfl, alike.mapError _⟩

theorem Alike.mapError {first : Emission Error First} {second : Emission Error Second}
    (convert : Error → Other) (alike : Alike related first second) :
    Alike related (first.mapError convert) (second.mapError convert) :=
  ⟨alike.entries, alike.result.mapError convert⟩

theorem Alike.bind {first : Emission Error First} {second : Emission Error Second}
    {left : First → Emission Error Left} {right : Second → Emission Error Right}
    (opening : Alike related first second)
    (closing : ∀ data other, related data other → Alike next (left data) (right other)) :
    Alike next (first >>= left) (second >>= right) := by
  obtain ⟨entries, result⟩ := opening
  rcases finished : first.result with fault | data <;>
    rcases ended : second.result with otherFault | other <;>
      rw [finished, ended] at result
  · rw [bind_of_error finished, bind_of_error ended]
    exact ⟨entries, .error⟩
  · cases result
  · cases result
  · cases result with
    | ok same =>
      obtain ⟨more, last⟩ := closing data other same
      rw [bind_of_ok finished, bind_of_ok ended]
      exact ⟨by rw [entries, more], last⟩

end Emission

/-- A draft takes the same entries from emissions that are alike. -/
theorem Draft.absorb_of_alike {First Second : Type} {related : First → Second → Prop}
    {first : Emission SchemaError First} {second : Emission SchemaError Second}
    (alike : first.Alike related second) (draft : Draft) :
    ∃ taken result other, draft.absorb id first = (taken, result) ∧
      draft.absorb id second = (taken, other) ∧ EndAlike related result other := by
  unfold absorb
  rw [alike.entries]
  split
  · exact ⟨_, _, _, rfl, rfl, alike.result⟩
  · exact ⟨_, _, _, rfl, rfl, .error⟩

namespace TypeRef

/-- The second type is the first one with any number of indirections around any of its parts. -/
inductive Indirected : TypeRef → TypeRef → Prop where
  | node {path : List String} {args wrapped : List TypeRef} :
      List.Forall₂ Indirected args wrapped → Indirected ⟨path, args⟩ ⟨path, wrapped⟩
  | layer {name : String} {type wrapped : TypeRef} :
      name = "Box" ∨ name = "Indirect" → Indirected type wrapped →
      Indirected type ⟨[name], [wrapped]⟩

theorem Indirected.refl : ∀ type : TypeRef, Indirected type type
  | ⟨_, _⟩ => .node (List.forall₂_same.mpr fun argument _ => refl argument)

/-- Only the arguments of two types differ, and these by indirections. -/
structure SameHead (type wrapped : TypeRef) : Prop where
  path : type.path = wrapped.path
  args : List.Forall₂ Indirected type.args wrapped.args

theorem SameHead.indirected {type wrapped : TypeRef} (same : SameHead type wrapped) :
    Indirected type wrapped := by
  obtain ⟨path, args⟩ := type
  obtain ⟨otherPath, otherArgs⟩ := wrapped
  obtain ⟨rfl, related⟩ := same
  exact .node related

theorem SameHead.wrapper?_eq {type wrapped : TypeRef} (same : SameHead type wrapped) :
    type.wrapper? = wrapped.wrapper? := by
  rw [wrapper?, wrapper?, same.path]

theorem SameHead.bareName?_eq {type wrapped : TypeRef} (same : SameHead type wrapped) :
    type.bareName? = wrapped.bareName? := by
  obtain ⟨path, args⟩ := type
  obtain ⟨otherPath, otherArgs⟩ := wrapped
  obtain ⟨rfl, related⟩ := same
  cases related with
  | nil => rfl
  | cons first others => rcases path with _ | ⟨name, _ | ⟨second, rest⟩⟩ <;> rfl

theorem SameHead.singleArgument {type wrapped : TypeRef} (same : SameHead type wrapped)
    (wrapper other : String) :
    EndAlike Indirected (type.singleArgument wrapper) (wrapped.singleArgument other) := by
  obtain ⟨path, args⟩ := type
  obtain ⟨otherPath, otherArgs⟩ := wrapped
  obtain ⟨rfl, related⟩ := same
  rcases related with _ | ⟨first, _ | _⟩
  · exact .error
  · exact .ok first
  · exact .error

theorem withoutIndirection_several {path : List String} {args : List TypeRef}
    (indirect : wrapper? ⟨path, args⟩ = some .indirect)
    (several : ∀ argument, args ≠ [argument]) :
    ∃ fault, withoutIndirection ⟨path, args⟩ = .error fault := by
  refine ⟨.wrapperArity (path.headD "") ⟨path, args⟩, ?_⟩
  rw [withoutIndirection]
  · exact several
  · exact indirect

/-- Seen through all indirections, related types have the same outermost constructor. -/
theorem Indirected.withoutIndirection {type wrapped : TypeRef} (related : Indirected type wrapped) :
    EndAlike SameHead type.withoutIndirection wrapped.withoutIndirection := by
  -- By the indirections of the wrapped type: each of them is either a further one or was there.
  fun_induction TypeRef.withoutIndirection wrapped generalizing type with
  | case1 path argument indirect inductionHypothesis =>
    cases related with
    | layer name related => exact inductionHypothesis related
    | @node _ before _ arguments =>
      cases arguments with
      | @cons inner _ _ _ first none =>
        cases none
        have outer : wrapper? ⟨path, [inner]⟩ = some .indirect := indirect
        rw [withoutIndirection_single outer]
        exact inductionHypothesis first
  | case2 path args indirect several =>
    cases related with
    | layer name related => exact absurd rfl (several _)
    | @node _ before _ arguments =>
      have unequal : ∀ argument, before ≠ [argument] := by
        rintro argument rfl
        rcases arguments with _ | ⟨first, _ | _⟩
        exact several _ rfl
      have outer : wrapper? ⟨path, before⟩ = some .indirect := indirect
      obtain ⟨fault, failed⟩ := withoutIndirection_several outer unequal
      rw [failed]
      exact .error
  | case3 path args direct single =>
    cases related with
    | layer name related => rcases name with rfl | rfl <;> exact absurd rfl direct
    | @node _ before _ arguments =>
      have outer : wrapper? ⟨path, before⟩ ≠ some .indirect := direct
      rw [withoutIndirection_of_wrapper?_ne outer]
      exact .ok ⟨rfl, arguments⟩

/-- The element of a wrapper, seen through its indirections. -/
theorem SameHead.element {type wrapped : TypeRef} (same : SameHead type wrapped)
    (wrapper other : String) :
    EndAlike SameHead
      (do
        let argument ← type.singleArgument wrapper
        argument.withoutIndirection)
      (do
        let argument ← wrapped.singleArgument other
        argument.withoutIndirection) :=
  (same.singleArgument wrapper other).bind fun _ _ related => related.withoutIndirection

end TypeRef

/-- Two shapes are of one kind, and their targets have the same outermost constructor. -/
structure TypeShape.SameTarget (shape other : TypeShape) : Prop where
  kind : shape.kind = other.kind
  target : shape.target.SameHead other.target

namespace TypeRef

theorem Indirected.shape {type wrapped : TypeRef} (related : Indirected type wrapped) :
    EndAlike TypeShape.SameTarget type.shape wrapped.shape := by
  unfold TypeRef.shape
  apply related.withoutIndirection.bind
  intro outer other same
  have element := same.element (outer.path.headD "") (other.path.headD "")
  dsimp only
  rw [← same.wrapper?_eq]
  split
  · apply element.bind
    intro inner otherInner target
    rw [← target.wrapper?_eq]
    split
    · exact .error
    · exact .ok ⟨rfl, target⟩
  · exact element.bind fun inner otherInner target => .ok ⟨rfl, target⟩
  · exact .ok ⟨rfl, same⟩

theorem Indirected.definitionName {type wrapped : TypeRef} (related : Indirected type wrapped) :
    EndAlike Eq type.definitionName wrapped.definitionName := by
  unfold TypeRef.definitionName
  apply related.withoutIndirection.bind
  intro target other same
  rw [← same.bareName?_eq]
  split
  · exact .ok rfl
  · exact .error

theorem SameHead.listRule {element wrapped : TypeRef} (same : SameHead element wrapped)
    (identity : String) (delimiter : Option Rule) (nonEmpty : Bool) :
    EndAlike Eq (element.listRule identity delimiter nonEmpty)
      (wrapped.listRule identity delimiter nonEmpty) := by
  apply same.indirected.definitionName.bind
  rintro name _ rfl
  exact .ok rfl

end TypeRef

namespace Field

/-- The second field is the first one with further indirections in its type, and in the types of
its delimiter and of those nested in it. -/
inductive Indirected : Field → Field → Prop where
  | undelimited {name : Option String} {type wrapped : TypeRef} {leaf : Option Leaf}
      {repetition : Option Repetition} :
      type.Indirected wrapped →
      Indirected ⟨name, type, leaf, none, repetition⟩ ⟨name, wrapped, leaf, none, repetition⟩
  | delimited {name : Option String} {type wrapped : TypeRef} {leaf : Option Leaf}
      {delimiter between : Field} {repetition : Option Repetition} :
      type.Indirected wrapped → Indirected delimiter between →
      Indirected ⟨name, type, leaf, some delimiter, repetition⟩
        ⟨name, wrapped, leaf, some between, repetition⟩

/-- Fields with one name, one terminal and the same settings. -/
structure SameSettings (field wrapped : Field) : Prop where
  name : field.name = wrapped.name
  leaf : field.leaf = wrapped.leaf
  delimited : field.delimited.isSome = wrapped.delimited.isSome
  repetition : field.repetition = wrapped.repetition
  type : field.type.Indirected wrapped.type

theorem Indirected.settings {field wrapped : Field} (related : Indirected field wrapped) :
    SameSettings field wrapped := by
  cases related with
  | undelimited type => exact ⟨rfl, rfl, rfl, rfl, type⟩
  | delimited type _ => exact ⟨rfl, rfl, rfl, rfl, type⟩

theorem SameSettings.shape {field wrapped : Field} (same : SameSettings field wrapped) :
    EndAlike TypeShape.SameTarget field.shape wrapped.shape := by
  unfold Field.shape terminal?
  rw [← same.leaf, ← same.delimited, ← same.repetition]
  apply same.type.shape.bind
  intro shape other target
  rw [← target.kind]
  split
  all_goals
    split
    · exact .error
    · exact .ok target

theorem SameSettings.leafRule {field wrapped : Field} (same : SameSettings field wrapped)
    {target other : TypeRef} (related : target.Indirected other) (path source : String)
    (identity : Option String) :
    (field.leafRule path source identity target).Alike Eq
      (wrapped.leafRule path source identity other) := by
  unfold Field.leafRule terminal?
  rw [← same.leaf]
  split
  · exact .refl _
  · apply (Emission.Alike.located source identity related.definitionName).bind
    rintro name _ rfl
    exact .refl _

/-- The same fragment for shapes that agree. -/
def SameFragment (found other : TypeShape × Rule) : Prop :=
  found.1.SameTarget other.1 ∧ found.2 = other.2

theorem SameSettings.fragment {field wrapped : Field} (same : SameSettings field wrapped)
    {path source identity : String}
    (between : (field.delimiterFragment path source identity).Alike Eq
      (wrapped.delimiterFragment path source identity)) :
    (field.fragment path source identity).Alike SameFragment
      (wrapped.fragment path source identity) := by
  rw [fragment_eq, fragment_eq, nonEmpty, nonEmpty, ← same.repetition]
  apply (Emission.Alike.located source identity same.shape).bind
  intro shape other target
  have leaf : Emission.Alike SameFragment
      (do
        let rule ← field.leafRule path source identity shape.target
        pure (shape, rule))
      (do
        let rule ← wrapped.leafRule path source identity other.target
        pure (other, rule)) := by
    apply (same.leafRule target.target.indirected path source identity).bind
    rintro rule _ rfl
    exact .pure ⟨target, rfl⟩
  rw [← target.kind]
  split
  · apply between.bind
    rintro delimiter _ rfl
    apply (Emission.Alike.located source identity (target.target.listRule ..)).bind
    rintro rule _ rfl
    exact .pure ⟨target, rfl⟩
  · exact leaf
  · exact leaf

/-- Related fields stand for the same fragment, and emit the same terminals for it. -/
theorem Indirected.fragment {field wrapped : Field} (related : Indirected field wrapped)
    (path source identity : String) :
    (field.fragment path source identity).Alike SameFragment
      (wrapped.fragment path source identity) := by
  induction related generalizing path identity with
  | undelimited type =>
    apply SameSettings.fragment
    · exact ⟨rfl, rfl, rfl, rfl, type⟩
    · exact .refl _
  | delimited type related inductionHypothesis =>
    apply SameSettings.fragment
    · exact ⟨rfl, rfl, rfl, rfl, type⟩
    · apply (inductionHypothesis (path ++ "_delimiter") (identity ++ ".delimiter")).bind
      intro found other fragment
      exact .pure (congrArg some fragment.2)

theorem Indirected.member {field wrapped : Field} (related : Indirected field wrapped)
    (path : String) (position : Nat) :
    (field.member path position).Alike Eq (wrapped.member path position) := by
  unfold Field.member identity
  rw [← related.settings.name]
  apply (related.fragment _ path _).bind
  rintro ⟨shape, rule⟩ ⟨other, otherRule⟩ ⟨target, sameRule⟩
  have sameKind : shape.kind = other.kind := target.kind
  cases (sameRule : rule = otherRule)
  dsimp only
  rw [sameKind]
  exact .refl _

theorem membersFrom_of_indirected {fields wrapped : List Field}
    (related : List.Forall₂ Indirected fields wrapped) (path : String) (position : Nat) :
    (membersFrom path position fields).Alike Eq (membersFrom path position wrapped) := by
  induction related generalizing position with
  | nil => exact .refl _
  | cons first _ inductionHypothesis =>
    apply (first.member path position).bind
    rintro member _ rfl
    apply (inductionHypothesis (position + 1)).bind
    rintro members _ rfl
    exact .refl _

end Field

theorem recordRule_of_indirected {fields wrapped : List Field}
    (related : List.Forall₂ Field.Indirected fields wrapped) (path : String)
    (level : Option Level) :
    (recordRule path fields level).Alike Eq (recordRule path wrapped level) := by
  apply ((Field.membersFrom_of_indirected related path 0).mapError id).bind
  rintro members _ rfl
  exact .refl _

/-- The second variant is the first one with further indirections in its fields. -/
inductive Variant.Indirected : Variant → Variant → Prop where
  | fields {name : String} {fields wrapped : List Field} {precedence : Option Level} :
      List.Forall₂ Field.Indirected fields wrapped →
      Indirected ⟨name, fields, precedence⟩ ⟨name, wrapped, precedence⟩

namespace TaggedUnion

theorem variantRules_of_indirected {union other : TaggedUnion} (named : union.name = other.name)
    {variants wrapped : List Variant}
    (related : List.Forall₂ Variant.Indirected variants wrapped) :
    (union.variantRules variants).Alike Eq (other.variantRules wrapped) := by
  induction related with
  | nil => exact .refl _
  | cons first _ inductionHypothesis =>
    cases first with
    | fields related =>
      unfold variantRules variantPath
      rw [← named]
      apply (recordRule_of_indirected related _ _).bind
      intro _ _ _
      exact inductionHypothesis

theorem rule_of_indirected {union : TaggedUnion} {wrapped : List Variant}
    (related : List.Forall₂ Variant.Indirected union.variants wrapped) :
    union.rule.Alike Eq { union with variants := wrapped }.rule := by
  have symbols : (union.variants.map fun variant => Rule.symbol (union.variantPath variant)) =
      wrapped.map fun variant => Rule.symbol (union.variantPath variant) := by
    generalize union.variants = variants at related
    induction related with
    | nil => rfl
    | cons first _ inductionHypothesis =>
      cases first with
      | fields related => rw [List.map_cons, List.map_cons, inductionHypothesis]; rfl
  have named : union.name = TaggedUnion.name { union with variants := wrapped } := rfl
  unfold TaggedUnion.rule
  apply (variantRules_of_indirected named related).bind
  intro _ _ _
  rw [symbols]
  exact .refl _

end TaggedUnion

namespace Definition

/-- The second definition is the first one with further indirections in its fields. -/
inductive Indirected : Definition → Definition → Prop where
  | record {spec : Record} {wrapped : List Field} :
      List.Forall₂ Field.Indirected spec.fields wrapped →
      Indirected (.record spec) (.record { spec with fields := wrapped })
  | union {spec : TaggedUnion} {wrapped : List Variant} :
      List.Forall₂ Variant.Indirected spec.variants wrapped →
      Indirected (.union spec) (.union { spec with variants := wrapped })

theorem Indirected.name_eq {definition wrapped : Definition}
    (related : Indirected definition wrapped) : definition.name = wrapped.name := by
  cases related <;> rfl

theorem Indirected.extra_eq {definition wrapped : Definition}
    (related : Indirected definition wrapped) : definition.extra = wrapped.extra := by
  cases related <;> rfl

theorem Indirected.language_eq {definition wrapped : Definition}
    (related : Indirected definition wrapped) : definition.language = wrapped.language := by
  cases related <;> rfl

theorem Indirected.rule {definition wrapped : Definition}
    (related : Indirected definition wrapped) : definition.rule.Alike Eq wrapped.rule := by
  cases related with
  | record related => exact recordRule_of_indirected related _ _
  | union related => exact TaggedUnion.rule_of_indirected related

theorem rules_of_indirected {definitions wrapped : List Definition}
    (related : List.Forall₂ Indirected definitions wrapped) :
    (rules definitions).Alike Eq (rules wrapped) := by
  induction related with
  | nil => exact .refl _
  | cons first _ inductionHypothesis =>
    apply first.rule.bind
    intro _ _ _
    exact inductionHypothesis

/-- The definitions that pass a test go by the same names. -/
theorem names_filter_of_indirected {definitions wrapped : List Definition}
    (related : List.Forall₂ Indirected definitions wrapped) {passes : Definition → Bool}
    (same : ∀ definition other, Indirected definition other → passes definition = passes other) :
    (definitions.filter passes).map name = (wrapped.filter passes).map name := by
  induction related with
  | nil => rfl
  | @cons definition other rest others first _ inductionHypothesis =>
    rw [List.filter_cons, List.filter_cons, ← same definition other first]
    split
    · rw [List.map_cons, List.map_cons, first.name_eq, inductionHypothesis]
    · exact inductionHypothesis

theorem root_of_indirected {definitions wrapped : List Definition}
    (related : List.Forall₂ Indirected definitions wrapped) :
    EndAlike (fun root other => root.name = other.name) (root definitions) (root wrapped) := by
  have names := names_filter_of_indirected related fun _ _ related => related.language_eq
  unfold root
  generalize definitions.filter language = roots at names ⊢
  generalize wrapped.filter language = otherRoots at names ⊢
  rcases roots with _ | ⟨first, _ | ⟨second, rest⟩⟩ <;>
    rcases otherRoots with _ | ⟨other, _ | ⟨another, others⟩⟩ <;>
      simp at names
  · exact .error
  · exact .ok names
  · exact .error

end Definition

namespace Grammar

theorem draft_of_indirected {definitions wrapped : List Definition}
    (related : List.Forall₂ Definition.Indirected definitions wrapped) (name root : String) :
    EndAlike Eq (draft name root definitions) (draft name root wrapped) := by
  obtain ⟨taken, result, other, absorbed, otherAbsorbed, alike⟩ :=
    (Draft.new name).absorb_of_alike (Definition.rules_of_indirected related)
  unfold draft
  rw [absorbed, otherAbsorbed]
  cases alike with
  | ok same => exact .refl _
  | error => exact .error

/-- Further indirections in the types of fields change nothing: the definitions with them make the
same grammar, or none either. -/
theorem compile_eq_ok_iff_of_indirected (name : Value) {definitions wrapped : List Definition}
    (related : List.Forall₂ Definition.Indirected definitions wrapped) (grammar : Grammar) :
    compile name definitions = .ok grammar ↔ compile name wrapped = .ok grammar := by
  have extras : extraNames definitions = extraNames wrapped :=
    Definition.names_filter_of_indirected related fun _ _ related => related.extra_eq
  have roots : EndAlike (fun root other => root.name = other.name)
      (unlocated (Definition.root definitions)) (unlocated (Definition.root wrapped)) :=
    (Definition.root_of_indirected related).mapError _
  apply EndAlike.eq_ok_iff
  unfold compile
  apply (EndAlike.refl (unlocated (checkedName name))).bind
  rintro text _ rfl
  apply roots.bind
  intro root other named
  rw [← named, ← extras]
  apply (draft_of_indirected related text root.name).bind
  rintro draft _ rfl
  exact .refl _

/-- A call with an optional name, arguments between commas and a suffix. -/
def callDefinitions : List Definition :=
  [.record ⟨"Call",
    [⟨some "function", ⟨["Option"], [⟨["Name"], []⟩]⟩, none, none, none⟩,
      ⟨some "arguments", ⟨["Vec"], [⟨["Argument"], []⟩]⟩, none,
        some ⟨none, ⟨[], []⟩, some ⟨none, some ",", none⟩, none, none⟩, some ⟨true⟩⟩,
      ⟨some "suffix", ⟨["Pair"], [⟨[], []⟩, ⟨["Text"], []⟩]⟩, some ⟨some "[a-z]", none, none⟩, none,
        none⟩],
    none, false, true⟩]

/-- The same call with indirections around an option and in it, in a list, around the type of a
delimiter, and around an argument of a type that only a terminal can have. -/
def boxedCallDefinitions : List Definition :=
  [.record ⟨"Call",
    [⟨some "function",
        ⟨["Box"], [⟨["Option"], [⟨["Indirect"], [⟨["Box"], [⟨["Name"], []⟩]⟩]⟩]⟩]⟩,
        none, none, none⟩,
      ⟨some "arguments", ⟨["Vec"], [⟨["Box"], [⟨["Argument"], []⟩]⟩]⟩, none,
        some ⟨none, ⟨["Indirect"], [⟨[], []⟩]⟩, some ⟨none, some ",", none⟩, none, none⟩,
        some ⟨true⟩⟩,
      ⟨some "suffix", ⟨["Pair"], [⟨["Box"], [⟨[], []⟩]⟩, ⟨["Text"], []⟩]⟩,
        some ⟨some "[a-z]", none, none⟩, none, none⟩],
    none, false, true⟩]

theorem boxedCallDefinitions_compile :
    List.Forall₂ Definition.Indirected callDefinitions boxedCallDefinitions ∧
      ∃ grammar, compile (.string "calls") callDefinitions = .ok grammar ∧
        compile (.string "calls") boxedCallDefinitions = .ok grammar := by
  have function : TypeRef.Indirected ⟨["Option"], [⟨["Name"], []⟩]⟩
      ⟨["Box"], [⟨["Option"], [⟨["Indirect"], [⟨["Box"], [⟨["Name"], []⟩]⟩]⟩]⟩]⟩ :=
    .layer (.inl rfl) (.node (.cons (.layer (.inr rfl) (.layer (.inl rfl) (.refl _))) .nil))
  have arguments : TypeRef.Indirected ⟨["Vec"], [⟨["Argument"], []⟩]⟩
      ⟨["Vec"], [⟨["Box"], [⟨["Argument"], []⟩]⟩]⟩ :=
    .node (.cons (.layer (.inl rfl) (.refl _)) .nil)
  have comma : TypeRef.Indirected ⟨[], []⟩ ⟨["Indirect"], [⟨[], []⟩]⟩ :=
    .layer (.inr rfl) (.refl _)
  have suffix : TypeRef.Indirected ⟨["Pair"], [⟨[], []⟩, ⟨["Text"], []⟩]⟩
      ⟨["Pair"], [⟨["Box"], [⟨[], []⟩]⟩, ⟨["Text"], []⟩]⟩ :=
    .node (.cons (.layer (.inl rfl) (.refl _)) (.cons (.refl _) .nil))
  have related : List.Forall₂ Definition.Indirected callDefinitions boxedCallDefinitions :=
    .cons (.record (.cons (.undelimited function) (.cons (.delimited arguments (.undelimited comma))
      (.cons (.undelimited suffix) .nil)))) .nil
  have compiled : compile (.string "calls") callDefinitions = .ok _ := rfl
  exact ⟨related, _, compiled, (compile_eq_ok_iff_of_indirected _ related _).mp compiled⟩

end Grammar

end SchemaGrammar
