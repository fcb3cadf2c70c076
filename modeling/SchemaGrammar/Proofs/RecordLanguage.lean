import SchemaGrammar.Proofs.RuleLanguage
set_option autoImplicit false

/-!
What the rule of a record means. `memberLanguage` reads the words of a field off its declaration:
a direct field is its labelled reference, an optional one may be missing, and a list is its labelled
element any number of times, with a word of the delimiter between consecutive ones. The words of the
compiled rule are those of its fields, one after the other.
-/

namespace SchemaGrammar

namespace Field

/-- The rule that a field refers to: its own terminal, or the definition that its type names. -/
def referenceName? (path : String) (field : Field) (target : TypeRef) : Option String :=
  match field.terminal? with
  | some _ => some path
  | none => target.bareName?

/-- An item a number of times, with a word of the delimiter between consecutive ones if there is a
delimiter. -/
def itemWords (item : Letter) (delimiter : Option (Language Letter)) (count : Nat) :
    Language Letter :=
  match delimiter with
  | none => {List.replicate count item}
  | some between => separated item between count

/-- The words that a field declares before it is labelled; the items of a list are labelled
already. A delimiter is a field of its own, one level deeper. -/
def fragmentLanguage (path identity : String) : Field → Language Letter
  | ⟨name, type, leaf, delimited, repetition⟩ =>
    let field : Field := ⟨name, type, leaf, delimited, repetition⟩
    let delimiter : Option (Language Letter) :=
      match delimited with
      | none => none
      | some delimiter =>
        some (delimiter.fragmentLanguage (path ++ "_delimiter") (identity ++ ".delimiter"))
    {word | ∃ shape, type.shape = .ok shape ∧
      match shape.kind with
      | .list => ∃ element count, shape.target.bareName? = some element ∧
          (field.nonEmpty = true → 1 ≤ count) ∧
          word ∈ itemWords ⟨some identity, element⟩ delimiter count
      | .direct | .optional => ∃ name, field.referenceName? path shape.target = some name ∧
          word = [⟨none, name⟩]}

/-- The words that the field at a position declares in the record at a path. -/
def memberLanguage (path : String) (field : Field) (position : Nat) : Language Letter :=
  let identity := field.identity position
  let reference (target : TypeRef) (word : List Letter) : Prop :=
    ∃ name, field.referenceName? (field.qualifiedPath path position) target = some name ∧
      word = [⟨some identity, name⟩]
  {word | ∃ shape, field.type.shape = .ok shape ∧
    match shape.kind with
    | .direct => reference shape.target word
    | .optional => word = [] ∨ reference shape.target word
    | .list => word ∈ field.fragmentLanguage (field.qualifiedPath path position) identity}

theorem mem_fragmentLanguage_of_single {path identity : String} {field : Field}
    {shape : TypeShape} {word : List Letter} (single : field.Single shape) :
    word ∈ field.fragmentLanguage path identity ↔
      ∃ name, field.referenceName? path shape.target = some name ∧ word = [⟨none, name⟩] := by
  rcases field with ⟨name, type, leaf, _ | delimiter, repetition⟩
  · have kind := single.kind
    rw [fragmentLanguage]
    constructor
    · intro membership
      rcases membership with ⟨found, shaped, declared⟩
      cases single.shaped.symm.trans shaped
      split at declared
      · contradiction
      all_goals exact declared
    · intro declared
      refine ⟨shape, single.shaped, ?_⟩
      split
      · contradiction
      all_goals exact declared
  · exact absurd single.undelimited (by simp)

theorem mem_fragmentLanguage_of_listed {path identity : String} {field : Field}
    {shape : TypeShape} {word : List Letter} (listed : field.Listed shape) :
    word ∈ field.fragmentLanguage path identity ↔
      ∃ element count, shape.target.bareName? = some element ∧
        (field.nonEmpty = true → 1 ≤ count) ∧
        word ∈ itemWords ⟨some identity, element⟩
          (field.delimited.map fun delimiter =>
            delimiter.fragmentLanguage (path ++ "_delimiter") (identity ++ ".delimiter"))
          count := by
  rcases field with ⟨name, type, leaf, _ | delimiter, repetition⟩ <;>
    · rw [fragmentLanguage]
      constructor
      · intro membership
        rcases membership with ⟨found, shaped, declared⟩
        cases listed.shaped.symm.trans shaped
        simp only [listed.kind] at declared
        exact declared
      · intro declared
        refine ⟨shape, listed.shaped, ?_⟩
        simp only [listed.kind]
        exact declared

/-- The compiled fragment of a field has the words that the field declares. -/
theorem Compiles.language_eq {source path identity : String} {field : Field}
    {entries : List Entry} {shape : TypeShape} {rule : Rule}
    (compiles : Compiles source path identity field entries shape rule)
    (terminals : Terminal → Language Letter) :
    rule.language terminals = field.fragmentLanguage path identity := by
  induction compiles with
  | terminal single terminal =>
    ext word
    rw [Rule.mem_language_symbol, mem_fragmentLanguage_of_single single]
    simp [referenceName?, terminal]
  | reference single plain bare =>
    ext word
    rw [Rule.mem_language_symbol, mem_fragmentLanguage_of_single single]
    simp [referenceName?, plain, bare]
  | items listed delimited bare =>
    ext word
    rw [Rule.mem_language_repetition_none, mem_fragmentLanguage_of_listed listed]
    simp [bare, delimited, itemWords]
    rfl
  | delimited listed delimited compiles bare inductionHypothesis =>
    ext word
    rw [Rule.mem_language_repetition_some, mem_fragmentLanguage_of_listed listed,
      inductionHypothesis]
    simp [bare, delimited, itemWords]

/-- The rule of a field that is no list refers to what the field refers to. -/
theorem Compiles.eq_symbol_of_single {source path identity : String} {field : Field}
    {entries : List Entry} {shape : TypeShape} {rule : Rule}
    (compiles : Compiles source path identity field entries shape rule)
    (single : field.Single shape) :
    ∃ name, field.referenceName? path shape.target = some name ∧ rule = .symbol name := by
  cases compiles with
  | terminal _ terminal => exact ⟨path, by simp [referenceName?, terminal], rfl⟩
  | reference _ plain bare => exact ⟨_, by simp [referenceName?, plain, bare], rfl⟩
  | items listed => exact absurd listed.kind single.kind
  | delimited listed => exact absurd listed.kind single.kind

theorem mem_memberLanguage_of_single {path : String} {field : Field} {position : Nat}
    {shape : TypeShape} {word : List Letter} (single : field.Single shape) :
    word ∈ field.memberLanguage path position ↔
      (shape.kind = .optional ∧ word = []) ∨
        ∃ name, field.referenceName? (field.qualifiedPath path position) shape.target = some name ∧
          word = [⟨some (field.identity position), name⟩] := by
  have kind := single.kind
  constructor
  · intro membership
    rcases membership with ⟨found, shaped, declared⟩
    cases single.shaped.symm.trans shaped
    split at declared <;> rename_i same
    · exact .inr declared
    · rcases declared with missing | reference
      · exact .inl ⟨same, missing⟩
      · exact .inr reference
    · contradiction
  · intro declared
    refine ⟨shape, single.shaped, ?_⟩
    split <;> rename_i same
    · simpa [same] using declared
    · simpa [same] using declared
    · contradiction

theorem mem_memberLanguage_of_listed {path : String} {field : Field} {position : Nat}
    {shape : TypeShape} {word : List Letter} (listed : field.Listed shape) :
    word ∈ field.memberLanguage path position ↔
      word ∈ field.fragmentLanguage (field.qualifiedPath path position)
        (field.identity position) := by
  constructor
  · intro membership
    rcases membership with ⟨found, shaped, declared⟩
    cases listed.shaped.symm.trans shaped
    simpa only [listed.kind] using declared
  · intro declared
    refine ⟨shape, listed.shaped, ?_⟩
    simpa only [listed.kind] using declared

/-- The compiled member of a field has the words that the field declares in its record. -/
theorem Compiles.member_language_eq {path : String} {field : Field} {position : Nat}
    {entries : List Entry} {shape : TypeShape} {fragment : Rule}
    (compiles : Compiles path (field.qualifiedPath path position) (field.identity position) field
      entries shape fragment)
    (terminals : Terminal → Language Letter) :
    (Rule.member (field.identity position) shape.kind fragment).language terminals =
      field.memberLanguage path position := by
  ext word
  rcases compiles.single_or_listed with single | listed
  · obtain ⟨name, reference, rfl⟩ := compiles.eq_symbol_of_single single
    have kind := single.kind
    rw [mem_memberLanguage_of_single single]
    rcases same : shape.kind with _ | _ | _
    · simp [Rule.member, reference, eq_comm]
    · simp [Rule.member, reference, eq_comm]
    · contradiction
  · have unlabelled : Rule.member (field.identity position) shape.kind fragment = fragment := by
      simp only [Rule.member, listed.kind]
    rw [unlabelled, compiles.language_eq terminals, mem_memberLanguage_of_listed listed]

/-- The members of a record have the words that its fields declare, each at its own position. -/
theorem MembersCompile.forall₂_language {path : String} {position : Nat} {fields : List Field}
    {entries : List Entry} {members : List Rule}
    (compile : MembersCompile path position fields entries members)
    (terminals : Terminal → Language Letter) {parts : List (List Letter)} :
    List.Forall₂ (fun part member => part ∈ Rule.language terminals member) parts members ↔
      List.Forall₂ (fun part (field, place) => part ∈ field.memberLanguage path place) parts
        (fields.zipIdx position) := by
  induction compile generalizing parts with
  | nil => simp
  | cons compiles _ inductionHypothesis =>
    rcases parts with _ | ⟨part, rest⟩
    · simp
    · simp only [List.zipIdx_cons, List.forall₂_cons, inductionHypothesis,
        compiles.member_language_eq terminals]

/-- Every field of a compiled record is compiled at its own position. -/
theorem MembersCompile.exists_of_mem {path : String} {position : Nat} {fields : List Field}
    {entries : List Entry} {members : List Rule}
    (compile : MembersCompile path position fields entries members) {field : Field} {place : Nat}
    (member : (field, place) ∈ fields.zipIdx position) :
    ∃ own shape fragment, Compiles path (field.qualifiedPath path place) (field.identity place)
      field own shape fragment := by
  induction compile with
  | nil => simp at member
  | cons compiles _ inductionHypothesis =>
    rw [List.zipIdx_cons, List.mem_cons] at member
    rcases member with same | later
    · obtain ⟨rfl, rfl⟩ := Prod.mk.inj same
      exact ⟨_, _, _, compiles⟩
    · exact inductionHypothesis later

/-- The delimiter of a compiled field is compiled one level deeper. -/
theorem Compiles.exists_of_delimited {source path identity : String} {field delimiter : Field}
    {entries : List Entry} {shape : TypeShape} {rule : Rule}
    (compiles : Compiles source path identity field entries shape rule)
    (delimited : field.delimited = some delimiter) :
    ∃ inner between, Compiles source (path ++ "_delimiter") (identity ++ ".delimiter") delimiter
      entries inner between := by
  cases compiles with
  | terminal single => simp [single.undelimited] at delimited
  | reference single => simp [single.undelimited] at delimited
  | items _ undelimited => simp [undelimited] at delimited
  | delimited _ same compiles =>
    cases same.symm.trans delimited
    exact ⟨_, _, compiles⟩

end Field

/-- The rule of a compiled record is registered under the path of the record, and its words are
those that the fields declare, one after the other in the order of the fields. What a field declares
between the items of a list are the words of the fragment that its delimiter is compiled to. The
level of precedence and what the terminals match play no part in it. -/
theorem record_language {Error : Type} {lift : SchemaError → Error} {path : String}
    {fields : List Field} {level : Except Error (Option Level)} {draft next : Draft} {rule : Rule}
    (compiled : draft.absorb lift (recordWith lift path fields level) = (next, .ok rule)) :
    next.get? path = some rule ∧
      ∀ terminals : Terminal → Language Letter,
        (∀ word, word ∈ rule.language terminals ↔
          ∃ parts, word = parts.flatten ∧
            List.Forall₂ (fun part (field, position) => part ∈ field.memberLanguage path position)
              parts fields.zipIdx) ∧
        ∀ field position delimiter, (field, position) ∈ fields.zipIdx →
          field.delimited = some delimiter →
          ∃ entries shape fragment,
            (delimiter.fragment (field.qualifiedPath path position ++ "_delimiter") path
              (field.identity position ++ ".delimiter")).Yields entries (shape, fragment) ∧
            fragment.language terminals =
              delimiter.fragmentLanguage (field.qualifiedPath path position ++ "_delimiter")
                (field.identity position ++ ".delimiter") := by
  obtain ⟨entries, yields, fresh, rfl⟩ := Draft.absorb_eq_ok_iff.mp compiled
  obtain ⟨precedence, front, members, _, compile, same, rfl⟩ := recordWith_yields_iff.mp yields
  refine ⟨?_, fun terminals => ⟨fun word => ?_, ?_⟩⟩
  · have registered : (⟨path, rule, path⟩ : Entry) ∈ front ++ [⟨path, rule, path⟩] := by simp
    exact Draft.get?_append_of_mem fresh registered
  · rw [same, Rule.language_record, Rule.mem_language_seq]
    simp only [compile.forall₂_language terminals]
  · intro field position delimiter member delimited
    obtain ⟨own, shape, fragment, compiles⟩ := compile.exists_of_mem member
    obtain ⟨inner, between, compiles⟩ := compiles.exists_of_delimited delimited
    exact ⟨own, inner, between, Field.fragment_yields_iff.mpr compiles,
      compiles.language_eq terminals⟩

/-- A call: the name of a function and, between commas, one argument or more. -/
def callFields : List Field :=
  [⟨some "function", ⟨["String"], []⟩, some ⟨some "[a-z]+", none, none⟩, none, none⟩,
    ⟨none, ⟨["Vec"], [⟨["Argument"], []⟩]⟩, none,
      some ⟨none, ⟨[], []⟩, some ⟨none, some ",", none⟩, none, none⟩, some ⟨true⟩⟩]

/-- A call with two arguments, whose second field goes by its position. -/
theorem call_record_language :
    ∃ next rule,
      (Draft.new "calls").absorb id (recordWith id "Call" callFields (.ok (some 7))) =
        (next, .ok rule) ∧
      next.get? "Call" = some rule ∧
      ∀ terminals : Terminal → Language Letter,
        [⟨some "function", "Call_function"⟩, ⟨some "1", "Argument"⟩,
          ⟨none, "Call_1_delimiter"⟩, ⟨some "1", "Argument"⟩] ∈ rule.language terminals := by
  have compiled :
      (Draft.new "calls").absorb id (recordWith id "Call" callFields (.ok (some 7))) =
        (_, .ok _) := rfl
  obtain ⟨registered, words⟩ := record_language compiled
  refine ⟨_, _, compiled, registered, fun terminals => ?_⟩
  refine ((words terminals).1 _).mpr ⟨[[⟨some "function", "Call_function"⟩],
    [⟨some "1", "Argument"⟩, ⟨none, "Call_1_delimiter"⟩, ⟨some "1", "Argument"⟩]], rfl,
    .cons ?_ (.cons ?_ .nil)⟩
  · exact ⟨⟨.direct, ⟨["String"], []⟩⟩, rfl, "Call_function", rfl, rfl⟩
  · refine ⟨⟨.list, ⟨["Argument"], []⟩⟩, rfl, ⟨.list, ⟨["Argument"], []⟩⟩, rfl, "Argument", 2, rfl,
      fun _ => by decide, ?_⟩
    refine ⟨_, ⟨_, rfl, [⟨none, "Call_1_delimiter"⟩], ?_, rfl⟩, _, rfl, rfl⟩
    exact ⟨⟨.direct, ⟨[], []⟩⟩, rfl, "Call_1_delimiter", rfl, rfl⟩

end SchemaGrammar
