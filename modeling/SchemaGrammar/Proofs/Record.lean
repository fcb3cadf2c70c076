import SchemaGrammar.Proofs.Fragment
import SchemaGrammar.Schema.Rules
set_option autoImplicit false

/-!
What records, variants and unions emit when all their fields are compiled. Each of the functions of
the compiler is inverted once: `membersFrom_yields_iff` for the fields of a record,
`recordWith_yields_iff` for a record or a variant, `rule_yields_iff` for a union and
`rules_cons_yields_iff` for a list of definitions.
-/

namespace SchemaGrammar

/-- The member of a sequence for a fragment of some shape. -/
def Rule.member (identity : String) (kind : ShapeKind) (fragment : Rule) : Rule :=
  match kind with
  | .list => fragment
  | .optional => .optional (.field identity fragment)
  | .direct => .field identity fragment

namespace Field

/-- The path of a field of the record at a path. -/
def qualifiedPath (path : String) (field : Field) (position : Nat) : String :=
  path ++ "_" ++ field.identity position

/-- Fields compiled in order, the first of them at a position: their entries and members. -/
inductive MembersCompile (path : String) : Nat → List Field → List Entry → List Rule → Prop where
  | nil {position : Nat} : MembersCompile path position [] [] []
  | cons {position : Nat} {field : Field} {rest : List Field} {front back : List Entry}
      {shape : TypeShape} {fragment : Rule} {members : List Rule} :
      Compiles path (field.qualifiedPath path position) (field.identity position) field front shape
        fragment →
      MembersCompile path (position + 1) rest back members →
      MembersCompile path position (field :: rest) (front ++ back)
        (Rule.member (field.identity position) shape.kind fragment :: members)

theorem member_yields_iff {path : String} {position : Nat} {field : Field} {entries : List Entry}
    {rule : Rule} :
    (field.member path position).Yields entries rule ↔
      ∃ shape fragment, Compiles path (field.qualifiedPath path position)
        (field.identity position) field entries shape fragment ∧
        rule = Rule.member (field.identity position) shape.kind fragment := by
  unfold member
  simp only [Emission.yields_bind, Emission.yields_pure]
  constructor
  · intro yields
    rcases yields with ⟨front, ⟨shape, fragment⟩, back, compiled, ⟨rfl, rfl⟩, rfl⟩
    rw [List.append_nil]
    exact ⟨shape, fragment, fragment_yields_iff.mp compiled, rfl⟩
  · intro compiled
    rcases compiled with ⟨shape, fragment, compiles, rfl⟩
    exact ⟨entries, (shape, fragment), [], fragment_yields_iff.mpr compiles, ⟨rfl, rfl⟩, by simp⟩

theorem membersFrom_yields_iff {path : String} {position : Nat} {fields : List Field}
    {entries : List Entry} {members : List Rule} :
    (membersFrom path position fields).Yields entries members ↔
      MembersCompile path position fields entries members := by
  induction fields generalizing position entries members with
  | nil =>
    simp only [membersFrom, Emission.yields_pure]
    constructor
    · intro yields
      rcases yields with ⟨rfl, rfl⟩
      exact .nil
    · rintro ⟨⟩
      exact ⟨rfl, rfl⟩
  | cons field rest inductionHypothesis =>
    simp only [membersFrom, Emission.yields_bind, Emission.yields_pure]
    constructor
    · intro yields
      rcases yields with ⟨front, _, _, first, ⟨back, _, _, others, ⟨rfl, rfl⟩, rfl⟩, rfl⟩
      obtain ⟨shape, fragment, compiles, rfl⟩ := member_yields_iff.mp first
      simpa using MembersCompile.cons compiles (inductionHypothesis.mp others)
    · intro compile
      cases compile with
      | @cons _ _ _ front back shape fragment others compiles compile =>
        exact ⟨front, _, back, member_yields_iff.mpr ⟨shape, fragment, compiles, rfl⟩,
          ⟨back, _, [], inductionHypothesis.mpr compile, ⟨rfl, rfl⟩, by simp⟩, rfl⟩

theorem MembersCompile.exists_of_wellFormed (path : String) (fields : List Field)
    (wellFormed : ∀ field ∈ fields, field.WellFormed) (position : Nat) :
    ∃ entries members, MembersCompile path position fields entries members := by
  induction fields generalizing position with
  | nil => exact ⟨[], [], .nil⟩
  | cons field rest inductionHypothesis =>
    obtain ⟨front, shape, fragment, compiles⟩ := (wellFormed field (by simp)).compiles path
      (field.qualifiedPath path position) (field.identity position)
    obtain ⟨back, members, compile⟩ := inductionHypothesis
      (fun other member => wellFormed other (by simp [member])) (position + 1)
    exact ⟨_, _, .cons compiles compile⟩

theorem MembersCompile.wellFormed {path : String} {position : Nat} {fields : List Field}
    {entries : List Entry} {members : List Rule}
    (compile : MembersCompile path position fields entries members) :
    ∀ field ∈ fields, field.WellFormed := by
  induction compile with
  | nil => simp
  | cons compiles _ inductionHypothesis =>
    intro other member
    rcases List.mem_cons.mp member with rfl | member
    · exact compiles.wellFormed
    · exact inductionHypothesis other member

theorem MembersCompile.length_eq {path : String} {position : Nat} {fields : List Field}
    {entries : List Entry} {members : List Rule}
    (compile : MembersCompile path position fields entries members) :
    members.length = fields.length := by
  induction compile with
  | nil => rfl
  | cons _ _ inductionHypothesis => simp [inductionHypothesis]

end Field

/-- A record is compiled when its fields are and its level is in order. -/
theorem recordWith_yields_iff {Error : Type} {lift : SchemaError → Error} {path : String}
    {fields : List Field} {level : Except Error (Option Level)} {entries : List Entry}
    {rule : Rule} :
    (recordWith lift path fields level).Yields entries rule ↔
      ∃ precedence terminals members, level = .ok precedence ∧
        Field.MembersCompile path 0 fields terminals members ∧
        rule = .record members precedence ∧ entries = terminals ++ [⟨path, rule, path⟩] := by
  unfold recordWith Field.members
  simp only [Emission.yields_bind, Emission.yields_mapError, Emission.yields_ofResult,
    Emission.yields_emit, Emission.yields_pure, Field.membersFrom_yields_iff]
  constructor
  · rintro ⟨terminals, members, _, compile, ⟨_, precedence, _, ⟨rfl, ordered⟩,
      ⟨_, _, _, rfl, ⟨rfl, rfl⟩, rfl⟩, rfl⟩, rfl⟩
    exact ⟨precedence, terminals, members, ordered, compile, rfl, by simp⟩
  · intro conditions
    rcases conditions with ⟨precedence, terminals, members, ordered, compile, rfl, rfl⟩
    exact ⟨terminals, members, _, compile, ⟨[], precedence, _, ⟨rfl, ordered⟩,
      ⟨_, (), [], rfl, ⟨rfl, rfl⟩, rfl⟩, rfl⟩, by simp⟩

namespace TaggedUnion

theorem variantRules_nil_yields_iff {union : TaggedUnion} {entries : List Entry} {data : Unit} :
    (union.variantRules []).Yields entries data ↔ entries = [] := by
  simp [variantRules]

theorem variantRules_cons_yields_iff {union : TaggedUnion} {variant : Variant}
    {rest : List Variant} {entries : List Entry} {data : Unit} :
    (union.variantRules (variant :: rest)).Yields entries data ↔
      ∃ front rule back,
        (recordRule (union.variantPath variant) variant.fields variant.precedence).Yields front
          rule ∧
        (union.variantRules rest).Yields back data ∧ front ++ back = entries := by
  simp [variantRules]

theorem rule_yields_iff {union : TaggedUnion} {entries : List Entry} {rule : Rule} :
    union.rule.Yields entries rule ↔
      ∃ front, (union.variantRules union.variants).Yields front () ∧
        rule = .choice (union.variants.map fun variant => .symbol (union.variantPath variant)) ∧
        entries = front ++ [⟨union.name, rule, union.name⟩] := by
  unfold TaggedUnion.rule
  simp only [Emission.yields_bind, Emission.yields_emit, Emission.yields_pure]
  constructor
  · intro yields
    rcases yields with ⟨front, _, _, variants, ⟨_, _, _, rfl, ⟨rfl, rfl⟩, rfl⟩, rfl⟩
    exact ⟨front, variants, rfl, by simp⟩
  · intro emitted
    rcases emitted with ⟨front, variants, rfl, rfl⟩
    exact ⟨front, (), _, variants, ⟨_, (), [], rfl, ⟨rfl, rfl⟩, rfl⟩, by simp⟩

end TaggedUnion

namespace Definition

theorem rules_nil_yields_iff {entries : List Entry} {data : Unit} :
    (rules []).Yields entries data ↔ entries = [] := by
  simp [rules]

theorem rules_cons_yields_iff {definition : Definition} {rest : List Definition}
    {entries : List Entry} {data : Unit} :
    (rules (definition :: rest)).Yields entries data ↔
      ∃ front rule back, definition.rule.Yields front rule ∧ (rules rest).Yields back data ∧
        front ++ back = entries := by
  simp [rules]

end Definition

end SchemaGrammar
