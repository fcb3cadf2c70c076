import SchemaGrammar.Proofs.Places
set_option autoImplicit false

/-!
The labels in the rule of a record. The member of a field is labelled with the field's identity. A
list that is the delimiter of another list labels its items as well, and the label says where the
delimiter lies: it is the identity of the field with a suffix for each level. So the labels are those
of the declared fields as long as no delimiter is a list.
-/

namespace SchemaGrammar

namespace Rule

mutual

/-- The labels in a rule, at any depth. -/
@[simp]
def labels : Rule → List String
  | field name content => name :: labels content
  | seq members => labelsIn members
  | choice members => labelsIn members
  | .repeat content => labels content
  | repeat1 content => labels content
  | precLeft _ content => labels content
  | symbol _ => []
  | pattern _ => []
  | string _ => []
  | blank => []

@[simp]
def labelsIn : List Rule → List String
  | [] => []
  | rule :: rest => labels rule ++ labelsIn rest

end

theorem mem_labelsIn_iff {members : List Rule} {label : String} :
    label ∈ labelsIn members ↔
      ∃ (index : Nat) (member : Rule), members[index]? = some member ∧ label ∈ member.labels := by
  induction members with
  | nil => simp
  | cons first rest inductionHypothesis =>
    rw [labelsIn, List.mem_append, inductionHypothesis]
    constructor
    · intro listed
      rcases listed with listed | ⟨index, member, found, listed⟩
      · exact ⟨0, first, rfl, listed⟩
      · exact ⟨index + 1, member, found, listed⟩
    · intro listed
      rcases listed with ⟨_ | index, member, found, listed⟩
      · cases found
        exact .inl listed
      · exact .inr ⟨index, member, found, listed⟩

theorem labels_record (members : List Rule) (level : Option Level) :
    (record members level).labels = labelsIn members := by
  cases level <;> simp [record]

theorem mem_labels_repetition_iff {identity name label : String} {delimiter : Option Rule}
    {nonEmpty : Bool} :
    label ∈ (repetition (.field identity (.symbol name)) delimiter nonEmpty).labels ↔
      label = identity ∨ ∃ rule, delimiter = some rule ∧ label ∈ rule.labels := by
  rcases delimiter with _ | rule <;> cases nonEmpty <;> simp [repetition, optional] <;> grind

end Rule

namespace Field

/-- The type of the field has the shape of a list. -/
def isList (field : Field) : Bool :=
  field.type.shape.toOption.any fun shape => shape.kind == .list

/-- How many lists lie in each other, each as the delimiter of the one before: none for a field that
is no list. -/
def nestedLists (field : Field) : Nat :=
  match field with
  | ⟨_, _, _, none, _⟩ => if field.isList then 1 else 0
  | ⟨_, _, _, some delimiter, _⟩ => if field.isList then delimiter.nestedLists + 1 else 0

theorem Single.isList {field : Field} {shape : TypeShape} (single : field.Single shape) :
    field.isList = false := by
  simp [Field.isList, single.shaped, single.kind, Except.toOption]

theorem Listed.isList {field : Field} {shape : TypeShape} (listed : field.Listed shape) :
    field.isList = true := by
  simp [Field.isList, listed.shaped, listed.kind, Except.toOption]

theorem Single.nestedLists {field : Field} {shape : TypeShape} (single : field.Single shape) :
    field.nestedLists = 0 := by
  have kind := single.isList
  rcases field with ⟨name, type, leaf, _ | delimiter, repetition⟩ <;> simp [Field.nestedLists, kind]

theorem Listed.nestedLists {field : Field} {shape : TypeShape} (listed : field.Listed shape) :
    field.nestedLists = (field.delimited.map Field.nestedLists).getD 0 + 1 := by
  have kind := listed.isList
  rcases field with ⟨name, type, leaf, _ | delimiter, repetition⟩ <;> simp [Field.nestedLists, kind]

/-- The labels in the fragment of a list are those of the lists in it, level by level. Any other
fragment has no label yet. -/
theorem Compiles.mem_labels_iff {source path identity : String} {field : Field}
    {entries : List Entry} {shape : TypeShape} {rule : Rule}
    (compiles : Compiles source path identity field entries shape rule) {label : String} :
    label ∈ rule.labels ↔ ∃ depth < field.nestedLists, label = delimiterIdentity identity depth := by
  induction compiles with
  | terminal single => simp [single.nestedLists]
  | reference single => simp [single.nestedLists]
  | items listed delimited =>
    simp [Rule.mem_labels_repetition_iff, listed.nestedLists, delimited, delimiterIdentity]
  | @delimited _ identity _ _ _ _ _ _ _ listed delimited _ _ inductionHypothesis =>
    have levels := listed.nestedLists
    rw [delimited, Option.map_some, Option.getD_some] at levels
    rw [Rule.mem_labels_repetition_iff]
    constructor
    · intro labelled
      rcases labelled with rfl | ⟨rule, ⟨⟩, inner⟩
      · exact ⟨0, by omega, rfl⟩
      · obtain ⟨depth, low, rfl⟩ := inductionHypothesis.mp inner
        exact ⟨depth + 1, by omega, delimiterIdentity_delimiter identity depth⟩
    · intro labelled
      rcases labelled with ⟨_ | depth, low, rfl⟩
      · exact .inl rfl
      · refine .inr ⟨_, rfl, inductionHypothesis.mpr ⟨depth, by omega, ?_⟩⟩
        exact (delimiterIdentity_delimiter identity depth).symm

theorem delimiterIdentity_eq_iff {identity : String} {depth : Nat} :
    delimiterIdentity identity depth = identity ↔ depth = 0 := by
  constructor
  · intro same
    have length (depth : Nat) :
        (delimiterIdentity identity depth).length = identity.length + 10 * depth := by
      induction depth with
      | zero => rfl
      | succ depth inductionHypothesis =>
        rw [delimiterIdentity, String.length_append, inductionHypothesis, Nat.mul_succ,
          ← Nat.add_assoc]
        rfl
    have own := length depth
    rw [same] at own
    omega
  · rintro rfl
    rfl

/-- The labels that a field at a position gives to its member: its identity, and one more for each
further list among its delimiters. -/
def Labels (field : Field) (position : Nat) (label : String) : Prop :=
  ∃ depth < max 1 field.nestedLists, label = delimiterIdentity (field.identity position) depth

theorem Compiles.mem_labels_member_iff {source path : String} {field : Field} {position : Nat}
    {entries : List Entry} {shape : TypeShape} {fragment : Rule}
    (compiles : Compiles source path (field.identity position) field entries shape fragment)
    {label : String} :
    label ∈ (Rule.member (field.identity position) shape.kind fragment).labels ↔
      field.Labels position label := by
  have inside : label ∈ fragment.labels ↔ _ := compiles.mem_labels_iff
  unfold Field.Labels
  rcases compiles.single_or_listed with single | listed
  · have kind := single.kind
    rw [single.nestedLists] at inside ⊢
    cases which : shape.kind with
    | list => contradiction
    | direct | optional => simp [Rule.member, Rule.optional, inside, delimiterIdentity]
  · have levels : max 1 field.nestedLists = field.nestedLists := by
      rw [listed.nestedLists]
      omega
    rw [levels, listed.kind]
    exact inside

/-- A field has no label but its identity, unless its delimiter is a list. -/
theorem labels_eq_identity_iff {field : Field} {position : Nat} :
    (∀ label, field.Labels position label → label = field.identity position) ↔
      field.nestedLists ≤ 1 := by
  constructor
  · intro alone
    refine Decidable.byContradiction fun more => ?_
    have further := alone _ ⟨1, by omega, rfl⟩
    exact absurd (delimiterIdentity_eq_iff.mp further) (by simp)
  · rintro few label ⟨depth, low, rfl⟩
    exact delimiterIdentity_eq_iff.mpr (by omega)

end Field

open SchemaGrammar.Field in
/-- In the rule of a compiled record the labels are those of its fields: the member of a field
carries its identity, and further labels just where a delimiter in the field is a list. -/
theorem labels_of_record {Error : Type} {lift : SchemaError → Error} {path : String}
    {fields : List Field} {level : Except Error (Option Level)} {draft next : Draft} {rule : Rule}
    (compiled : draft.absorb lift (recordWith lift path fields level) = (next, .ok rule)) :
    next.get? path = some rule ∧
      (∀ label, label ∈ rule.labels ↔
        ∃ (position : Nat) (field : Field), fields[position]? = some field ∧
          field.Labels position label) ∧
      ∃ precedence members, level = .ok precedence ∧ rule = .record members precedence ∧
        members.length = fields.length ∧
        ∀ (position : Nat) (field : Field), fields[position]? = some field →
          ∃ member, members[position]? = some member ∧
            (∀ label, label ∈ member.labels ↔ field.Labels position label) ∧
            ((∀ label ∈ member.labels, label = field.identity position) ↔
              field.nestedLists ≤ 1) := by
  obtain ⟨entries, yields, fresh, rfl⟩ := Draft.absorb_eq_ok_iff.mp compiled
  obtain ⟨precedence, front, members, ordered, compile, rfl, rfl⟩ := recordWith_yields_iff.mp yields
  have stored := Draft.get?_append_of_mem fresh (List.mem_append_right _ (.head _))
  have length : members.length = fields.length := compile.length_eq
  have labelled : ∀ (position : Nat) (field : Field), fields[position]? = some field →
      ∃ member, members[position]? = some member ∧
        ∀ label, label ∈ member.labels ↔ field.Labels position label := by
    intro position field found
    obtain ⟨own, shape, fragment, compiles, stands⟩ := compile.getElem? found
    rw [Nat.zero_add] at compiles stands
    exact ⟨_, stands, fun label => compiles.mem_labels_member_iff⟩
  refine ⟨stored, ?_, precedence, members, ordered, rfl, length, ?_⟩
  · intro label
    rw [Rule.labels_record, Rule.mem_labelsIn_iff]
    constructor
    · intro listed
      obtain ⟨position, member, stands, listed⟩ := listed
      have low : position < fields.length := by
        rw [← length]
        exact (List.getElem?_eq_some_iff.mp stands).1
      obtain ⟨same, there, labels⟩ := labelled position _ (List.getElem?_eq_getElem low)
      cases stands.symm.trans there
      exact ⟨position, _, List.getElem?_eq_getElem low, (labels label).mp listed⟩
    · intro declared
      obtain ⟨position, field, found, carried⟩ := declared
      obtain ⟨member, stands, labels⟩ := labelled position field found
      exact ⟨position, member, stands, (labels label).mpr carried⟩
  · intro position field found
    obtain ⟨member, stands, labels⟩ := labelled position field found
    refine ⟨member, stands, labels, ?_⟩
    simp only [labels]
    exact labels_eq_identity_iff

/-- A sign, and items with lists of commas between them. -/
def separatedFields : List Field :=
  [⟨some "sign", ⟨["Sign"], []⟩, none, none, none⟩,
    ⟨some "items", ⟨["Vec"], [⟨["Item"], []⟩]⟩, none,
      some ⟨none, ⟨["Vec"], [⟨["Comma"], []⟩]⟩, none, none, none⟩, none⟩]

theorem separatedFields_labels :
    ∃ next members,
      (Draft.new "lists").absorb id (recordWith id "List" separatedFields (.ok none)) =
        (next, .ok (.record members none)) ∧
      (∀ member, members[0]? = some member → ∀ label ∈ member.labels, label = "sign") ∧
      ∃ member, members[1]? = some member ∧ "items.delimiter" ∈ member.labels := by
  have compiled :
      (Draft.new "lists").absorb id (recordWith id "List" separatedFields (.ok none)) =
        (_, .ok (.record _ none)) := rfl
  obtain ⟨_, _, precedence, members, ⟨⟩, ⟨⟩, _, labels⟩ := labels_of_record compiled
  obtain ⟨sign, first, _, alone⟩ := labels 0 _ rfl
  obtain ⟨items, second, further, _⟩ := labels 1 _ rfl
  refine ⟨_, _, compiled, ?_, items, second, (further _).mpr ⟨1, by decide, rfl⟩⟩
  intro member found
  cases found.symm.trans first
  exact alone.mpr (by decide)

/-- Not every label in the rule of a record is the identity of a field of the record. -/
theorem delimiter_label_not_declared :
    ¬ ∀ (path : String) (fields : List Field) (level : Option Level) (draft next : Draft)
        (rule : Rule), draft.absorb id (recordWith id path fields (.ok level)) = (next, .ok rule) →
        ∀ label ∈ rule.labels, ∃ (position : Nat) (field : Field),
          fields[position]? = some field ∧ label = field.identity position := by
  intro declared
  obtain ⟨position, field, found, same⟩ :=
    declared "List" separatedFields none (.new "lists") _ _ rfl "items.delimiter" (by decide)
  rcases position with _ | _ | position
  · cases found
    exact absurd same (by decide)
  · cases found
    exact absurd same (by decide)
  · simp [separatedFields] at found

end SchemaGrammar
