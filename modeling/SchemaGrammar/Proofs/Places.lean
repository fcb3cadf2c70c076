import SchemaGrammar.Proofs.Record
import SchemaGrammar.Proofs.RuleForm
set_option autoImplicit false

/-!
Where the fragment of a field stands in the rule of its record. A place is the way down to a part of
a rule. `placeIn` computes the place of a field, and of a delimiter any number of levels inside it,
from the declaration; `optional_of_record` says what is around it there. An optional field of the
record itself stands in a choice with nothing. A delimiter stands before the item that it announces,
and no such choice is around it, be it optional or not.
-/

namespace SchemaGrammar

namespace Rule

/-- Follows a place into a rule and retains the part that is reached. -/
def descend? (rule : Rule) : List Nat → Option Rule
  | [] => some rule
  | index :: rest =>
    match rule.parts[index]? with
    | some part => part.descend? rest
    | none => none

theorem descend?_append (rule : Rule) (first second : List Nat) :
    rule.descend? (first ++ second) =
      (rule.descend? first).bind fun part => part.descend? second := by
  induction first generalizing rule with
  | nil => rfl
  | cons index rest inductionHypothesis =>
    simp only [List.cons_append, descend?]
    split
    · rw [inductionHypothesis]
    · rfl

theorem descend?_append_of_some {rule part : Rule} {first : List Nat}
    (reached : rule.descend? first = some part) (second : List Nat) :
    rule.descend? (first ++ second) = part.descend? second := by
  rw [descend?_append, reached]
  rfl

/-- The place of a member in the rule of a record. -/
def memberPlace (level : Option Level) (position : Nat) : List Nat :=
  match level with
  | none => [position]
  | some _ => [0, position]

theorem descend?_memberPlace (members : List Rule) (level : Option Level) (position : Nat) :
    (record members level).descend? (memberPlace level position) = members[position]? := by
  cases level <;> cases found : members[position]? <;>
    simp [record, memberPlace, descend?, parts, found]

/-- The place of a fragment in the member for it. -/
def fragmentPlace : ShapeKind → List Nat
  | .direct => [0]
  | .optional => [1, 0]
  | .list => []

theorem descend?_fragmentPlace (identity : String) (kind : ShapeKind) (fragment : Rule) :
    (member identity kind fragment).descend? (fragmentPlace kind) = some fragment := by
  cases kind <;> rfl

/-- The place, in a list, of the sequence of a delimiter and the item that comes after it. -/
def furtherPlace (nonEmpty : Bool) : List Nat :=
  if nonEmpty then [1, 0] else [1, 1, 0]

theorem descend?_furtherPlace (item delimiter : Rule) (nonEmpty : Bool) :
    (repetition item (some delimiter) nonEmpty).descend? (furtherPlace nonEmpty) =
      some (.seq [delimiter, item]) := by
  cases nonEmpty <;> rfl

/-- At this place stands a rule, labelled or not, that a choice around it offers besides nothing. -/
def MayBeMissing (rule : Rule) (place : List Nat) : Prop :=
  ∃ outer part, rule.descend? outer = some (optional part) ∧
    (place = outer ++ [1] ∨ ∃ label content, part = .field label content ∧ place = outer ++ [1, 0])

/-- The first rule of a sequence cannot be left out. -/
theorem not_mayBeMissing_of_seq {rule : Rule} {members : List Rule} {outer : List Nat}
    (around : rule.descend? outer = some (.seq members)) :
    ¬ rule.MayBeMissing (outer ++ [0]) := by
  intro missing
  obtain ⟨other, part, choice, same | ⟨label, content, rfl, same⟩⟩ := missing
  · simpa using congrArg List.getLast? same
  · have whole : outer = other ++ [1] := by
      have := congrArg List.dropLast same
      simpa [List.dropLast_append_of_ne_nil] using this
    rw [whole, descend?_append_of_some choice] at around
    cases around

end Rule

namespace Field

/-- The field itself at level 0, and the delimiter in it that lies a number of levels deep. -/
def delimiter? : Nat → Field → Option Field
  | 0, field => some field
  | depth + 1, field => field.delimited.bind (delimiter? depth)

/-- What names the delimiter that lies a number of levels inside a field. -/
def delimiterIdentity (identity : String) : Nat → String
  | 0 => identity
  | depth + 1 => delimiterIdentity identity depth ++ ".delimiter"

theorem delimiterIdentity_delimiter (identity : String) (depth : Nat) :
    delimiterIdentity (identity ++ ".delimiter") depth = delimiterIdentity identity (depth + 1) := by
  induction depth with
  | zero => rfl
  | succ depth inductionHypothesis =>
    exact congrArg (· ++ ".delimiter") inductionHypothesis

/-- The place, in the fragment of a field, of the delimiter that lies a number of levels deep. -/
def delimiterPlace : Nat → Field → List Nat
  | 0, _ => []
  | depth + 1, field =>
    Rule.furtherPlace field.nonEmpty ++ 0 :: (field.delimited.map (delimiterPlace depth)).getD []

/-- The place of that delimiter in the rule of the record, when the field is at a position. -/
def placeIn (level : Option Level) (position depth : Nat) (field : Field) : List Nat :=
  let fragmentPlace :=
    match field.type.shape with
    | .ok shape => Rule.fragmentPlace shape.kind
    | .error _ => []
  Rule.memberPlace level position ++ fragmentPlace ++ field.delimiterPlace depth

/-- A delimiter is compiled with its field, and it stands at its place. -/
theorem Compiles.descend?_delimiterPlace {source path identity : String} {field delimiter : Field}
    {entries : List Entry} {shape : TypeShape} {rule : Rule}
    (compiles : Compiles source path identity field entries shape rule) {depth : Nat}
    (inside : field.delimiter? depth = some delimiter) :
    ∃ inner fragment,
      Compiles source (delimiterPath path depth) (delimiterIdentity identity depth) delimiter
        entries inner fragment ∧
      rule.descend? (field.delimiterPlace depth) = some fragment ∧
      (depth ≠ 0 → ∃ outer item, field.delimiterPlace depth = outer ++ [0] ∧
        rule.descend? outer = some (.seq [fragment, item])) := by
  induction depth generalizing path identity field shape rule with
  | zero =>
    cases inside
    exact ⟨shape, rule, compiles, rfl, by simp⟩
  | succ depth inductionHypothesis =>
    obtain ⟨between, delimited, within⟩ := Option.bind_eq_some_iff.mp inside
    cases compiles with
    | terminal single => simp [single.undelimited] at delimited
    | reference single => simp [single.undelimited] at delimited
    | items _ undelimited => simp [undelimited] at delimited
    | @delimited _ _ _ _ _ _ name _ rule listed same compiles bare =>
      cases same.symm.trans delimited
      -- One level is left for the delimiter itself, whose path and identity are already longer.
      obtain ⟨inner, fragment, compiled, reached, announced⟩ := inductionHypothesis compiles within
      rw [delimiterPath_delimiter, delimiterIdentity_delimiter] at compiled
      have further := Rule.descend?_furtherPlace (.field identity (.symbol name)) rule
        field.nonEmpty
      have place : field.delimiterPlace (depth + 1) =
          Rule.furtherPlace field.nonEmpty ++ 0 :: between.delimiterPlace depth := by
        simp [delimiterPlace, delimited]
      refine ⟨inner, fragment, compiled, ?_, fun _ => ?_⟩
      · rw [place, Rule.descend?_append_of_some further]
        exact reached
      · rw [place]
        cases depth with
        | zero =>
          cases reached
          exact ⟨Rule.furtherPlace field.nonEmpty, _, rfl, further⟩
        | succ depth =>
          obtain ⟨outer, item, last, around⟩ := announced (by simp)
          refine ⟨Rule.furtherPlace field.nonEmpty ++ 0 :: outer, item, by simp [last], ?_⟩
          rw [Rule.descend?_append_of_some further]
          exact around

/-- Every field of a record is compiled at its own position, and its member stands there. -/
theorem MembersCompile.getElem? {path : String} {start : Nat} {fields : List Field}
    {entries : List Entry} {members : List Rule}
    (compile : MembersCompile path start fields entries members) {index : Nat} {field : Field}
    (found : fields[index]? = some field) :
    ∃ own shape fragment,
      Compiles path (field.qualifiedPath path (start + index)) (field.identity (start + index)) field
        own shape fragment ∧
      members[index]? =
        some (Rule.member (field.identity (start + index)) shape.kind fragment) := by
  induction compile generalizing index with
  | nil => simp at found
  | @cons position first rest front back shape fragment members compiles _ inductionHypothesis =>
    cases index with
    | zero =>
      cases found
      exact ⟨front, shape, fragment, compiles, rfl⟩
    | succ index =>
      rw [← Nat.add_assoc, Nat.add_right_comm]
      exact inductionHypothesis found

theorem placeIn_eq {field : Field} {shape : TypeShape} (shaped : field.type.shape = .ok shape)
    (level : Option Level) (position depth : Nat) :
    field.placeIn level position depth =
      Rule.memberPlace level position ++ Rule.fragmentPlace shape.kind ++
        field.delimiterPlace depth := by
  simp only [placeIn, shaped]

end Field

open SchemaGrammar.Field in
/-- In the rule of a compiled record the fragment of every field, and of every delimiter inside it,
stands at the place that the declarations tell. An optional field of the record may be missing
there. A delimiter stands right before an item, and may not be missing even where it is optional. -/
theorem optional_of_record {Error : Type} {lift : SchemaError → Error} {path : String}
    {fields : List Field} {level : Except Error (Option Level)} {draft next : Draft} {rule : Rule}
    (compiled : draft.absorb lift (recordWith lift path fields level) = (next, .ok rule)) :
    next.get? path = some rule ∧ ∃ precedence, level = .ok precedence ∧
      ∀ (position : Nat) (field : Field), fields[position]? = some field →
        ∀ (depth : Nat) (part : Field), field.delimiter? depth = some part →
          ∃ entries shape fragment,
            (part.fragment (delimiterPath (field.qualifiedPath path position) depth) path
              (delimiterIdentity (field.identity position) depth)).Yields entries
                (shape, fragment) ∧
            part.type.shape = .ok shape ∧
            rule.descend? (field.placeIn precedence position depth) = some fragment ∧
            (shape.kind = .optional →
              (rule.MayBeMissing (field.placeIn precedence position depth) ↔ depth = 0)) ∧
            (depth ≠ 0 → ∃ outer item, field.placeIn precedence position depth = outer ++ [0] ∧
              rule.descend? outer = some (.seq [fragment, item])) := by
  obtain ⟨entries, yields, fresh, rfl⟩ := Draft.absorb_eq_ok_iff.mp compiled
  obtain ⟨precedence, front, members, ordered, compile, rfl, rfl⟩ := recordWith_yields_iff.mp yields
  refine ⟨Draft.get?_append_of_mem fresh (List.mem_append_right _ (.head _)), precedence, ordered,
    ?_⟩
  intro position field found depth part inside
  obtain ⟨own, shape, fragment, compiles, stands⟩ := compile.getElem? found
  rw [Nat.zero_add] at compiles stands
  obtain ⟨inner, content, within, reached, announced⟩ := compiles.descend?_delimiterPlace inside
  have atMember : (Rule.record members precedence).descend?
      (Rule.memberPlace precedence position) =
        some (Rule.member (field.identity position) shape.kind fragment) := by
    rw [Rule.descend?_memberPlace, stands]
  have atFragment : (Rule.record members precedence).descend?
      (Rule.memberPlace precedence position ++ Rule.fragmentPlace shape.kind) = some fragment := by
    rw [Rule.descend?_append_of_some atMember, Rule.descend?_fragmentPlace]
  have place := placeIn_eq compiles.shaped precedence position depth
  have before : depth ≠ 0 → ∃ outer item,
      field.placeIn precedence position depth = outer ++ [0] ∧
        (Rule.record members precedence).descend? outer = some (.seq [content, item]) := by
    intro deep
    obtain ⟨outer, item, last, around⟩ := announced deep
    refine ⟨_, item, by rw [place, last, ← List.append_assoc], ?_⟩
    rw [Rule.descend?_append_of_some atFragment, around]
  refine ⟨own, inner, content, fragment_yields_iff.mpr within, within.shaped, ?_, ?_, before⟩
  · rw [place, Rule.descend?_append_of_some atFragment, reached]
  · intro optional
    constructor
    · intro missing
      refine Decidable.byContradiction fun deep => ?_
      obtain ⟨outer, item, last, around⟩ := before deep
      rw [last] at missing
      exact Rule.not_mayBeMissing_of_seq around missing
    · rintro rfl
      cases inside
      cases within.shaped.symm.trans compiles.shaped
      rw [optional] at atMember
      refine ⟨_, _, atMember, .inr ⟨_, _, rfl, ?_⟩⟩
      rw [place, optional]
      simp [Rule.fragmentPlace, delimiterPlace]

/-- A sign that may be missing, and a list of digits with an optional mark between them. -/
def signedFields : List Field :=
  [⟨some "sign", ⟨["Option"], [⟨["Sign"], []⟩]⟩, none, none, none⟩,
    ⟨some "digits", ⟨["Vec"], [⟨["Digit"], []⟩]⟩, none,
      some ⟨none, ⟨["Option"], [⟨["Mark"], []⟩]⟩, none, none, none⟩, some ⟨true⟩⟩]

theorem signedFields_optional :
    ∃ next rule,
      (Draft.new "numbers").absorb id (recordWith id "Number" signedFields (.ok (some 1))) =
        (next, .ok rule) ∧
      rule.MayBeMissing [0, 0, 1, 0] ∧ ¬ rule.MayBeMissing [0, 1, 1, 0, 0] := by
  have compiled :
      (Draft.new "numbers").absorb id (recordWith id "Number" signedFields (.ok (some 1))) =
        (_, .ok _) := rfl
  obtain ⟨_, _, ⟨⟩, fields⟩ := optional_of_record compiled
  obtain ⟨_, _, _, _, ⟨⟩, _, sign, _⟩ := fields 0 _ rfl 0 _ rfl
  obtain ⟨_, _, _, _, ⟨⟩, _, mark, _⟩ := fields 1 _ rfl 1 _ rfl
  exact ⟨_, _, compiled, (sign rfl).mpr rfl, fun missing => by simpa using (mark rfl).mp missing⟩

/-- Not every optional field that is compiled for a record may be missing from its rule. -/
theorem optional_delimiter_not_missing :
    ¬ ∀ (path : String) (fields : List Field) (level : Option Level) (draft next : Draft)
        (rule : Rule), draft.absorb id (recordWith id path fields (.ok level)) = (next, .ok rule) →
        ∀ (position : Nat) (field : Field), fields[position]? = some field →
          ∀ (depth : Nat) (part : Field) (shape : TypeShape), field.delimiter? depth = some part →
            part.type.shape = .ok shape → shape.kind = .optional →
              rule.MayBeMissing (field.placeIn level position depth) := by
  intro missing
  have mark := missing "Number" signedFields none (.new "numbers") _ _ rfl 1 _ rfl 1 _ _ rfl rfl rfl
  exact @Rule.not_mayBeMissing_of_seq _ _ [1, 1, 0] rfl mark

end SchemaGrammar
