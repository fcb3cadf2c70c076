import SchemaGrammar.Schema.Fragment
set_option autoImplicit false

/-!
The rules that definitions stand for. A record is the sequence of its fields, a union the choice
between its variants, each of which is compiled like a record of its own. The terminals of the
fields come before the rule that refers to them, and the variants before their union.
-/

namespace SchemaGrammar

namespace Field

/-- The member of a sequence for a field: a list is labelled already, any other field gets its
label here, and an optional one may be missing. -/
def member (path : String) (position : Nat) (field : Field) : Emission SchemaError Rule := do
  let identity := field.identity position
  let (shape, rule) ← field.fragment (path ++ "_" ++ identity) path identity
  pure <|
    match shape.kind with
    | .list => rule
    | .optional => .optional (.field identity rule)
    | .direct => .field identity rule

/-- The members for fields that start at a position. -/
def membersFrom (path : String) (position : Nat) :
    List Field → Emission SchemaError (List Rule)
  | [] => pure []
  | field :: rest => do
    let member ← field.member path position
    let members ← membersFrom path (position + 1) rest
    pure (member :: members)

def members (path : String) (fields : List Field) : Emission SchemaError (List Rule) :=
  membersFrom path 0 fields

end Field

/-- The rule of a record with these members. -/
def Rule.record (members : List Rule) : Option Level → Rule
  | none => .seq members
  | some level => .precLeft level (.seq members)

/-- Compiles fields into the rule of a path. Whether there is a level of precedence is only looked
at when the fields are in order. -/
def recordWith {Error : Type} (lift : SchemaError → Error) (path : String) (fields : List Field)
    (level : Except Error (Option Level)) : Emission Error Rule := do
  let members ← (Field.members path fields).mapError lift
  let level ← Emission.ofResult level
  let rule := Rule.record members level
  Emission.emit ⟨path, rule, path⟩
  pure rule

/-- The rule of a record or a variant. -/
def recordRule (path : String) (fields : List Field) (level : Option Level) :
    Emission SchemaError Rule :=
  recordWith id path fields (.ok level)

namespace TaggedUnion

/-- The path of a variant's rule. -/
def variantPath (union : TaggedUnion) (variant : Variant) : String :=
  union.name ++ "_" ++ variant.name

/-- The rules of the variants, in order. -/
def variantRules (union : TaggedUnion) : List Variant → Emission SchemaError Unit
  | [] => pure ()
  | variant :: rest => do
    let _ ← recordRule (union.variantPath variant) variant.fields variant.precedence
    union.variantRules rest

def rule (union : TaggedUnion) : Emission SchemaError Rule := do
  union.variantRules union.variants
  let rule := Rule.choice (union.variants.map fun variant => .symbol (union.variantPath variant))
  Emission.emit ⟨union.name, rule, union.name⟩
  pure rule

end TaggedUnion

namespace Definition

def rule : Definition → Emission SchemaError Rule
  | .record spec => recordRule spec.name spec.fields spec.precedence
  | .union spec => spec.rule

/-- The rules of several definitions, one after the other. -/
def rules : List Definition → Emission SchemaError Unit
  | [] => pure ()
  | definition :: rest => do
    let _ ← definition.rule
    rules rest

end Definition

end SchemaGrammar
