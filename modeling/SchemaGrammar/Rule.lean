set_option autoImplicit false

/-!
Grammar rules and grammars, as a parser generator reads them. A grammar lists its rules by name in
order; its extras are the names of the rules that may stand between any two tokens.
-/

namespace SchemaGrammar

inductive Rule where
  | symbol (name : String)
  | seq (members : List Rule)
  | choice (members : List Rule)
  | repeat (content : Rule)
  | repeat1 (content : Rule)
  | field (name : String) (content : Rule)
  | precLeft (level : UInt32) (content : Rule)
  | pattern (value : String)
  | string (value : String)
  | blank
  deriving Inhabited

namespace Rule

/-- The name of the kind of a rule. -/
def tag : Rule → String
  | symbol _ => "SYMBOL"
  | seq _ => "SEQ"
  | choice _ => "CHOICE"
  | .repeat _ => "REPEAT"
  | repeat1 _ => "REPEAT1"
  | field _ _ => "FIELD"
  | precLeft _ _ => "PREC_LEFT"
  | pattern _ => "PATTERN"
  | string _ => "STRING"
  | blank => "BLANK"

/-- The names of all kinds. -/
def tags : List String :=
  ["SYMBOL", "SEQ", "CHOICE", "REPEAT", "REPEAT1", "FIELD", "PREC_LEFT", "PATTERN", "STRING",
    "BLANK"]

/-- A rule or nothing. -/
def optional (rule : Rule) : Rule := choice [blank, rule]

mutual

/-- Whether two rules are the same. -/
def beq : Rule → Rule → Bool
  | symbol a, symbol b => a == b
  | seq a, seq b => beqList a b
  | choice a, choice b => beqList a b
  | .repeat a, .repeat b => beq a b
  | repeat1 a, repeat1 b => beq a b
  | field m a, field n b => m == n && beq a b
  | precLeft m a, precLeft n b => m == n && beq a b
  | pattern a, pattern b => a == b
  | string a, string b => a == b
  | blank, blank => true
  | _, _ => false

def beqList : List Rule → List Rule → Bool
  | [], [] => true
  | a :: as, b :: bs => beq a b && beqList as bs
  | _, _ => false

end

mutual

theorem beq_iff : ∀ left right : Rule, beq left right = true ↔ left = right
  | symbol _, right => by cases right <;> simp [beq]
  | seq a, right => by cases right <;> simp [beq, beqList_iff a]
  | choice a, right => by cases right <;> simp [beq, beqList_iff a]
  | .repeat a, right => by cases right <;> simp [beq, beq_iff a]
  | repeat1 a, right => by cases right <;> simp [beq, beq_iff a]
  | field _ a, right => by cases right <;> simp [beq, beq_iff a]
  | precLeft _ a, right => by cases right <;> simp [beq, beq_iff a]
  | pattern _, right => by cases right <;> simp [beq]
  | string _, right => by cases right <;> simp [beq]
  | blank, right => by cases right <;> simp [beq]

theorem beqList_iff : ∀ left right : List Rule, beqList left right = true ↔ left = right
  | [], right => by cases right <;> simp [beqList]
  | a :: as, right => by cases right <;> simp [beqList, beq_iff a, beqList_iff as]

end

instance : DecidableEq Rule := fun left right => decidable_of_iff _ (beq_iff left right)

end Rule

/-- The name of the rule that a parser starts with. -/
def startRule : String := "source_file"

/-- The rules of a grammar have distinct names. -/
structure Grammar where
  name : String
  rules : List (String × Rule)
  extras : List String
  deriving DecidableEq

/-- The rule with a name. -/
def Grammar.rule? (grammar : Grammar) (name : String) : Option Rule := grammar.rules.lookup name

end SchemaGrammar
