import SchemaGrammar.Proofs.Grammar
set_option autoImplicit false

/-!
Which definitions make a grammar, and in which order its rules stand. `emissionList` reads the names
of the rules off the definitions, without compiling them. A grammar is compiled exactly when its
name is an identifier, one definition is the root, all fields are well formed and no name of the
list occurs twice or is the start rule's; the rules are then the start rule and the list in order.
-/

namespace SchemaGrammar

namespace Field

/-- The name of the terminal that the field at a position emits for the record at a path. -/
def terminalName? (path : String) (field : Field) (position : Nat) : Option String :=
  field.nestedTerminal?.map fun (depth, _) =>
    delimiterPath (field.qualifiedPath path position) depth

theorem MembersCompile.names_eq {path : String} {position : Nat} {fields : List Field}
    {entries : List Entry} {members : List Rule}
    (compile : MembersCompile path position fields entries members) :
    entries.map Entry.name =
      (fields.zipIdx position).filterMap fun (field, index) => field.terminalName? path index := by
  induction compile with
  | nil => simp
  | @cons position field rest front back shape fragment members compiles _ inductionHypothesis =>
    rw [List.map_append, inductionHypothesis, compiles.entries_eq, List.zipIdx_cons,
      List.filterMap_cons]
    rcases nested : field.nestedTerminal? with _ | ⟨depth, terminal⟩ <;>
      simp [terminalName?, terminalEntries, nested]

end Field

/-- The names of the rules of a record: the terminals of its fields in order, then its own. -/
def recordNames (path : String) (fields : List Field) : List String :=
  (fields.zipIdx.filterMap fun (field, position) => field.terminalName? path position) ++ [path]

theorem recordNames_of_yields {Error : Type} {lift : SchemaError → Error} {path : String}
    {fields : List Field} {level : Except Error (Option Level)} {entries : List Entry} {rule : Rule}
    (yields : (recordWith lift path fields level).Yields entries rule) :
    entries.map Entry.name = recordNames path fields ∧ ∀ field ∈ fields, field.WellFormed := by
  obtain ⟨_, terminals, members, _, compile, rfl, rfl⟩ := recordWith_yields_iff.mp yields
  exact ⟨by simp [recordNames, compile.names_eq], compile.wellFormed⟩

-- A list emits no terminal of its own, but its delimiter does.
example :
    recordNames "Call"
      [⟨some "function", ⟨["String"], []⟩, some ⟨some "[a-z]+", none, none⟩, none, none⟩,
        ⟨none, ⟨["Vec"], [⟨["Argument"], []⟩]⟩, none,
          some ⟨none, ⟨[], []⟩, some ⟨none, some ",", none⟩, none, none⟩, none⟩] =
      ["Call_function", "Call_1_delimiter", "Call"] := by
  decide

theorem exists_recordRule_yields (path : String) {fields : List Field} (level : Option Level)
    (wellFormed : ∀ field ∈ fields, field.WellFormed) :
    ∃ entries rule, (recordRule path fields level).Yields entries rule := by
  obtain ⟨terminals, members, compile⟩ :=
    Field.MembersCompile.exists_of_wellFormed path fields wellFormed 0
  exact ⟨_, _, recordWith_yields_iff.mpr ⟨level, terminals, members, rfl, compile, rfl, rfl⟩⟩

namespace TaggedUnion

/-- The names of the rules of some variants of a union. -/
def variantNames (union : TaggedUnion) (variants : List Variant) : List String :=
  variants.flatMap fun variant => recordNames (union.variantPath variant) variant.fields

theorem variantNames_of_yields {union : TaggedUnion} {variants : List Variant}
    {entries : List Entry} (yields : (union.variantRules variants).Yields entries ()) :
    entries.map Entry.name = union.variantNames variants ∧
      ∀ variant ∈ variants, ∀ field ∈ variant.fields, field.WellFormed := by
  induction variants generalizing entries with
  | nil => simp_all [variantRules_nil_yields_iff, variantNames]
  | cons variant rest inductionHypothesis =>
    obtain ⟨front, rule, back, opening, closing, rfl⟩ := variantRules_cons_yields_iff.mp yields
    obtain ⟨first, wellFormed⟩ := recordNames_of_yields opening
    obtain ⟨others, restFormed⟩ := inductionHypothesis closing
    refine ⟨by simp [variantNames, first, others], ?_⟩
    intro other member
    rcases List.mem_cons.mp member with rfl | member
    · exact wellFormed
    · exact restFormed other member

theorem exists_variantRules_yields (union : TaggedUnion) {variants : List Variant}
    (wellFormed : ∀ variant ∈ variants, ∀ field ∈ variant.fields, field.WellFormed) :
    ∃ entries, (union.variantRules variants).Yields entries () := by
  induction variants with
  | nil => exact ⟨[], variantRules_nil_yields_iff.mpr rfl⟩
  | cons variant rest inductionHypothesis =>
    obtain ⟨front, rule, opening⟩ := exists_recordRule_yields (union.variantPath variant)
      variant.precedence (wellFormed variant (by simp))
    obtain ⟨back, closing⟩ := inductionHypothesis
      fun other member => wellFormed other (by simp [member])
    exact ⟨front ++ back, variantRules_cons_yields_iff.mpr ⟨_, _, _, opening, closing, rfl⟩⟩

end TaggedUnion

namespace Definition

/-- The fields of a record, or of all variants of a union. -/
def fields : Definition → List Field
  | .record spec => spec.fields
  | .union spec => spec.variants.flatMap Variant.fields

/-- The names of the rules of a definition; its own name comes last. -/
def emittedNames : Definition → List String
  | .record spec => recordNames spec.name spec.fields
  | .union spec => spec.variantNames spec.variants ++ [spec.name]

/-- The names of the rules of several definitions. -/
def emissionList (definitions : List Definition) : List String :=
  definitions.flatMap emittedNames

theorem emittedNames_of_yields {definition : Definition} {entries : List Entry} {rule : Rule}
    (yields : definition.rule.Yields entries rule) :
    entries.map Entry.name = definition.emittedNames ∧
      ∀ field ∈ definition.fields, field.WellFormed := by
  cases definition with
  | record spec => exact recordNames_of_yields yields
  | union spec =>
    obtain ⟨front, variants, rfl, rfl⟩ := TaggedUnion.rule_yields_iff.mp yields
    obtain ⟨names, wellFormed⟩ := TaggedUnion.variantNames_of_yields variants
    refine ⟨by simp [emittedNames, names], ?_⟩
    intro field member
    obtain ⟨variant, listed, member⟩ := List.mem_flatMap.mp member
    exact wellFormed variant listed field member

theorem exists_rule_yields {definition : Definition}
    (wellFormed : ∀ field ∈ definition.fields, field.WellFormed) :
    ∃ entries rule, definition.rule.Yields entries rule := by
  cases definition with
  | record spec => exact exists_recordRule_yields spec.name spec.precedence wellFormed
  | union spec =>
    obtain ⟨front, variants⟩ := TaggedUnion.exists_variantRules_yields spec
      fun variant listed field member =>
        wellFormed field (List.mem_flatMap.mpr ⟨variant, listed, member⟩)
    exact ⟨_, _, TaggedUnion.rule_yields_iff.mpr ⟨front, variants, rfl, rfl⟩⟩

theorem emissionList_of_yields {definitions : List Definition} {entries : List Entry}
    (yields : (rules definitions).Yields entries ()) :
    entries.map Entry.name = emissionList definitions ∧
      ∀ definition ∈ definitions, ∀ field ∈ definition.fields, field.WellFormed := by
  induction definitions generalizing entries with
  | nil => simp_all [rules_nil_yields_iff, emissionList]
  | cons definition rest inductionHypothesis =>
    obtain ⟨front, rule, back, opening, closing, rfl⟩ := rules_cons_yields_iff.mp yields
    obtain ⟨first, wellFormed⟩ := emittedNames_of_yields opening
    obtain ⟨others, restFormed⟩ := inductionHypothesis closing
    refine ⟨by simp [emissionList, first, others], ?_⟩
    intro other member
    rcases List.mem_cons.mp member with rfl | member
    · exact wellFormed
    · exact restFormed other member

theorem exists_rules_yields {definitions : List Definition}
    (wellFormed : ∀ definition ∈ definitions, ∀ field ∈ definition.fields, field.WellFormed) :
    ∃ entries, (rules definitions).Yields entries () := by
  induction definitions with
  | nil => exact ⟨[], rules_nil_yields_iff.mpr rfl⟩
  | cons definition rest inductionHypothesis =>
    obtain ⟨front, rule, opening⟩ := exists_rule_yields (wellFormed definition (by simp))
    obtain ⟨back, closing⟩ := inductionHypothesis
      fun other member => wellFormed other (by simp [member])
    exact ⟨front ++ back, rules_cons_yields_iff.mpr ⟨_, _, _, opening, closing, rfl⟩⟩

/-- Every definition has a rule of its own name. -/
theorem exists_entry_of_mem {definitions : List Definition} {definition : Definition}
    {entries : List Entry} (yields : (rules definitions).Yields entries ())
    (member : definition ∈ definitions) : ∃ entry ∈ entries, entry.name = definition.name := by
  obtain ⟨before, own, rule, after, emitted, rfl⟩ := exists_of_mem yields member
  obtain ⟨front, rfl⟩ := exists_of_rule_yields emitted
  exact ⟨⟨definition.name, rule, definition.name⟩, by simp, rfl⟩

end Definition

namespace Grammar

/-- Which definitions make a grammar, and the order of its rules. -/
theorem compile_accepts_iff_and_ruleNames (name : Value) (definitions : List Definition) :
    ((∃ grammar, compile name definitions = .ok grammar) ↔
      (∃ text, name = .string text ∧ TypeRef.isIdentifier text = true) ∧
      definitions.countP Definition.language = 1 ∧
      (∀ definition ∈ definitions, ∀ field ∈ definition.fields, field.WellFormed) ∧
      (Definition.emissionList definitions).Nodup ∧
      startRule ∉ Definition.emissionList definitions) ∧
    ∀ grammar, compile name definitions = .ok grammar →
      grammar.rules.map Prod.fst = startRule :: Definition.emissionList definitions := by
  refine ⟨⟨?_, ?_⟩, ?_⟩
  · intro accepted
    rcases accepted with ⟨grammar, compiled⟩
    obtain ⟨text, root, entries, _, rfl, identifier, marked, yields, distinct, _, _⟩ :=
      compile_eq_ok_iff.mp compiled
    obtain ⟨names, wellFormed⟩ := Definition.emissionList_of_yields yields
    rw [names, List.nodup_cons] at distinct
    refine ⟨⟨text, rfl, identifier⟩, ?_, wellFormed, distinct.2, distinct.1⟩
    rw [List.countP_eq_length_filter, marked, List.length_singleton]
  · intro conditions
    rcases conditions with ⟨⟨text, rfl, identifier⟩, single, wellFormed, distinct, unreserved⟩
    rw [List.countP_eq_length_filter, List.length_eq_one_iff] at single
    obtain ⟨root, marked⟩ := single
    obtain ⟨entries, yields⟩ := Definition.exists_rules_yields wellFormed
    have names := (Definition.emissionList_of_yields yields).1
    have member : root ∈ definitions := by
      have chosen : root ∈ definitions.filter Definition.language := by simp [marked]
      exact (List.mem_filter.mp chosen).1
    obtain ⟨entry, listed, named⟩ := Definition.exists_entry_of_mem yields member
    exact ⟨_, compile_eq_ok_iff.mpr ⟨text, root, entries, entry.rule, rfl, identifier, marked,
      yields, by rw [names]; exact List.nodup_cons.mpr ⟨unreserved, distinct⟩,
      ⟨entry, listed, named, rfl⟩, rfl⟩⟩
  · intro grammar compiled
    obtain ⟨_, _, entries, _, _, _, _, yields, _, _, rfl⟩ := compile_eq_ok_iff.mp compiled
    simp [← (Definition.emissionList_of_yields yields).1]

end Grammar

end SchemaGrammar
