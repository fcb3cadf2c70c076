import SchemaGrammar.TypeRef.Parser
set_option autoImplicit false

/-!
The syntax of types as derivations. A derivation has the tokens that it derives at its leaves, each
of the kind that its place asks for, and so every derivation is one of the grammar:

    type    := "(" [members] ")" | path ["<" members ">"]
    members := type ("," type)*
    path    := identifier (separator identifier)*

No two derivations derive the same tokens. `Derivation.eq_of_append` says more, as the induction
needs it to: tokens that begin with a sentence, in front of what does not prolong it, begin with no
other one.
-/

namespace SchemaGrammar.TypeRef

/-- A token of a kind. -/
abbrev Lexeme (kind : TokenKind) := { token : Token // token.kind = kind }

/-- A path: an identifier and any number of further ones, each behind a separator. -/
structure Path where
  first : Lexeme .identifier
  more : List (Lexeme .separator × Lexeme .identifier)

namespace Path

def moreTokens (more : List (Lexeme .separator × Lexeme .identifier)) : List Token :=
  more.flatMap fun (separator, segment) => [separator.val, segment.val]

def tokens (path : Path) : List Token := path.first.val :: moreTokens path.more

/-- The segments of the path. -/
def names (path : Path) : List String :=
  path.first.val.text :: path.more.map fun (_, segment) => segment.val.text

end Path

mutual

/-- The derivations of a type. -/
inductive Derivation where
  | unit (opening : Lexeme .openParen) (closing : Lexeme .closeParen)
  | tuple (opening : Lexeme .openParen) (members : Members) (closing : Lexeme .closeParen)
  | name (path : Path)
  | generic (path : Path) (opening : Lexeme .openAngle) (members : Members)
      (closing : Lexeme .closeAngle)

/-- The derivations of one type or more, with commas between them. -/
inductive Members where
  | last (member : Derivation)
  | more (member : Derivation) (comma : Lexeme .comma) (rest : Members)

end

mutual

/-- The sentence that is derived. -/
def Derivation.tokens : Derivation → List Token
  | .unit opening closing => [opening.val, closing.val]
  | .tuple opening members closing => opening.val :: (members.tokens ++ [closing.val])
  | .name path => path.tokens
  | .generic path opening members closing =>
    path.tokens ++ opening.val :: (members.tokens ++ [closing.val])

def Members.tokens : Members → List Token
  | .last member => member.tokens
  | .more member comma rest => member.tokens ++ comma.val :: rest.tokens

end

mutual

/-- The tree that a derivation stands for. A tuple has no path. -/
def Derivation.type : Derivation → TypeRef
  | .unit _ _ => ⟨[], []⟩
  | .tuple _ members _ => ⟨[], members.types⟩
  | .name path => ⟨path.names, []⟩
  | .generic path _ members _ => ⟨path.names, members.types⟩

def Members.types : Members → List TypeRef
  | .last member => [member.type]
  | .more member _ rest => member.type :: rest.types

end

/-- The tokens do not go on with one of these kinds. -/
def Stops (kinds : List TokenKind) (tokens : List Token) : Prop :=
  ∀ token ∈ tokens.head?, token.kind ∉ kinds

theorem stops_cons {kinds : List TokenKind} {token : Token} {rest : List Token} :
    Stops kinds (token :: rest) ↔ token.kind ∉ kinds := by
  simp [Stops]

theorem Lexeme.stops {kind : TokenKind} {kinds : List TokenKind} (lexeme : Lexeme kind)
    (other : kind ∉ kinds) (rest : List Token) : Stops kinds (lexeme.val :: rest) := by
  rw [stops_cons, lexeme.property]
  exact other

theorem Lexeme.not_stops {kind : TokenKind} {kinds : List TokenKind} {rest tokens : List Token}
    (lexeme : Lexeme kind) (member : kind ∈ kinds) (begins : tokens = lexeme.val :: rest) :
    ¬ Stops kinds tokens := by
  rw [begins, stops_cons, lexeme.property]
  exact not_not_intro member

theorem Lexeme.ne {kind other : TokenKind} (lexeme : Lexeme kind) (different : kind ≠ other)
    (token : Lexeme other) : lexeme.val ≠ token.val := by
  intro same
  exact different (lexeme.property.symm.trans ((congrArg Token.kind same).trans token.property))

namespace Path

theorem moreTokens_eq_of_append {more others : List (Lexeme .separator × Lexeme .identifier)}
    {rest after : List Token} (restStops : Stops [.separator] rest)
    (afterStops : Stops [.separator] after)
    (same : moreTokens more ++ rest = moreTokens others ++ after) :
    more = others ∧ rest = after := by
  induction more generalizing others with
  | nil =>
    rcases others with _ | ⟨⟨separator, segment⟩, others⟩
    · exact ⟨rfl, same⟩
    · exact absurd restStops (separator.not_stops (by decide) same)
  | cons step more inductionHypothesis =>
    obtain ⟨separator, segment⟩ := step
    rcases others with _ | ⟨⟨separator', segment'⟩, others⟩
    · exact absurd afterStops (separator.not_stops (by decide) same.symm)
    · obtain ⟨separators, same⟩ := List.cons.inj same
      obtain ⟨segments, same⟩ := List.cons.inj same
      obtain ⟨rfl, rfl⟩ := inductionHypothesis same
      rw [Subtype.ext separators, Subtype.ext segments]
      exact ⟨rfl, rfl⟩

theorem eq_of_append {path other : Path} {rest after : List Token}
    (restStops : Stops [.separator] rest) (afterStops : Stops [.separator] after)
    (same : path.tokens ++ rest = other.tokens ++ after) : path = other ∧ rest = after := by
  rcases path with ⟨first, more⟩
  rcases other with ⟨first', more'⟩
  obtain ⟨firsts, same⟩ := List.cons.inj same
  obtain ⟨rfl, rfl⟩ := moreTokens_eq_of_append restStops afterStops same
  have firstSame : first = first' := Subtype.ext firsts
  rw [firstSame]
  exact ⟨rfl, rfl⟩

end Path

theorem Derivation.exists_tokens_eq_cons (derivation : Derivation) :
    ∃ token rest, derivation.tokens = token :: rest ∧
      (token.kind = .identifier ∨ token.kind = .openParen) := by
  cases derivation with
  | unit opening closing => exact ⟨_, _, rfl, .inr opening.property⟩
  | tuple opening members closing => exact ⟨_, _, rfl, .inr opening.property⟩
  | name path => exact ⟨_, _, rfl, .inl path.first.property⟩
  | generic path opening members closing => exact ⟨_, _, rfl, .inl path.first.property⟩

theorem Members.exists_tokens_eq_cons (members : Members) :
    ∃ token rest, members.tokens = token :: rest ∧
      (token.kind = .identifier ∨ token.kind = .openParen) := by
  cases members with
  | last member =>
    exact member.exists_tokens_eq_cons
  | more member comma others =>
    obtain ⟨token, rest, begins, kind⟩ := member.exists_tokens_eq_cons
    exact ⟨token, _, by rw [Members.tokens, begins]; rfl, kind⟩

/-- Members do not begin where parentheses are closed. -/
theorem Members.append_ne_closing (members : Members) (closing : Lexeme .closeParen)
    {rest after : List Token} : members.tokens ++ rest ≠ closing.val :: after := by
  obtain ⟨token, tokens, begins, kind⟩ := members.exists_tokens_eq_cons
  rw [begins]
  intro same
  rw [(List.cons.inj same).1, closing.property] at kind
  simp at kind

/-- What follows a type that is not prolonged. -/
abbrev Ends (tokens : List Token) : Prop := Stops [.separator, .openAngle] tokens

/-- What follows members that are not prolonged. -/
abbrev EndsMembers (tokens : List Token) : Prop := Stops [.separator, .openAngle, .comma] tokens

theorem Ends.path {tokens : List Token} (ends : Ends tokens) : Stops [.separator] tokens := by
  intro token first
  have := ends token first
  simp_all

theorem EndsMembers.ends {tokens : List Token} (ends : EndsMembers tokens) : Ends tokens := by
  intro token first
  have := ends token first
  simp_all

mutual

/-- A derivation is found again in front of what does not prolong it. -/
theorem Derivation.eq_of_append : ∀ {derivation other : Derivation} {rest after : List Token},
    Ends rest → Ends after → derivation.tokens ++ rest = other.tokens ++ after →
    derivation = other ∧ rest = after
  | .unit opening closing, other, rest, after, _, _, same => by
    cases other with
    | unit opening' closing' =>
      obtain ⟨openings, same⟩ := List.cons.inj same
      obtain ⟨closings, same⟩ := List.cons.inj same
      rw [Subtype.ext openings, Subtype.ext closings]
      exact ⟨rfl, same⟩
    | tuple opening' members closing' =>
      simp only [Derivation.tokens, List.cons_append, List.append_assoc, List.cons.injEq] at same
      exact absurd same.2.symm (members.append_ne_closing closing)
    | name path | generic path _ _ _ =>
      exact absurd (List.cons.inj same).1 (opening.ne (by decide) path.first)
  | .tuple opening members closing, other, rest, after, _, _, same => by
    cases other with
    | unit opening' closing' =>
      simp only [Derivation.tokens, List.cons_append, List.append_assoc, List.cons.injEq] at same
      exact absurd same.2 (members.append_ne_closing closing')
    | tuple opening' members' closing' =>
      simp only [Derivation.tokens, List.cons_append, List.append_assoc, List.nil_append,
        List.cons.injEq] at same
      obtain ⟨openings, same⟩ := same
      obtain ⟨rfl, closed⟩ := Members.eq_of_append (closing.stops (by decide) rest)
        (closing'.stops (by decide) after) same
      obtain ⟨closings, behind⟩ := List.cons.inj closed
      rw [Subtype.ext openings, Subtype.ext closings]
      exact ⟨rfl, behind⟩
    | name path | generic path _ _ _ =>
      exact absurd (List.cons.inj same).1 (opening.ne (by decide) path.first)
  | .name path, other, rest, after, restEnds, afterEnds, same => by
    cases other with
    | unit opening _ | tuple opening _ _ =>
      exact absurd (List.cons.inj same).1 (path.first.ne (by decide) opening)
    | name path' =>
      obtain ⟨rfl, behind⟩ := Path.eq_of_append restEnds.path afterEnds.path same
      exact ⟨rfl, behind⟩
    | generic path' opening members closing =>
      simp only [Derivation.tokens, List.append_assoc] at same
      obtain ⟨_, same⟩ := Path.eq_of_append restEnds.path (opening.stops (by decide) _) same
      exact absurd restEnds (opening.not_stops (by decide) same)
  | .generic path opening members closing, other, rest, after, restEnds, afterEnds, same => by
    cases other with
    | unit opening' _ | tuple opening' _ _ =>
      exact absurd (List.cons.inj same).1 (path.first.ne (by decide) opening')
    | name path' =>
      simp only [Derivation.tokens, List.append_assoc] at same
      obtain ⟨_, same⟩ := Path.eq_of_append (opening.stops (by decide) _) afterEnds.path same
      exact absurd afterEnds (opening.not_stops (by decide) same.symm)
    | generic path' opening' members' closing' =>
      simp only [Derivation.tokens, List.append_assoc, List.cons_append, List.nil_append] at same
      obtain ⟨rfl, opened⟩ := Path.eq_of_append (opening.stops (by decide) _)
        (opening'.stops (by decide) _) same
      obtain ⟨openings, inside⟩ := List.cons.inj opened
      obtain ⟨rfl, closed⟩ := Members.eq_of_append (closing.stops (by decide) rest)
        (closing'.stops (by decide) after) inside
      obtain ⟨closings, behind⟩ := List.cons.inj closed
      rw [Subtype.ext openings, Subtype.ext closings]
      exact ⟨rfl, behind⟩

theorem Members.eq_of_append : ∀ {members others : Members} {rest after : List Token},
    EndsMembers rest → EndsMembers after → members.tokens ++ rest = others.tokens ++ after →
    members = others ∧ rest = after
  | .last member, others, rest, after, restEnds, afterEnds, same => by
    cases others with
    | last other =>
      obtain ⟨rfl, behind⟩ := Derivation.eq_of_append restEnds.ends afterEnds.ends same
      exact ⟨rfl, behind⟩
    | more other comma others =>
      simp only [Members.tokens, List.append_assoc] at same
      obtain ⟨_, same⟩ := Derivation.eq_of_append restEnds.ends (comma.stops (by decide) _) same
      exact absurd restEnds (comma.not_stops (by decide) same)
  | .more member comma members, others, rest, after, restEnds, afterEnds, same => by
    cases others with
    | last other =>
      simp only [Members.tokens, List.append_assoc] at same
      obtain ⟨_, same⟩ := Derivation.eq_of_append (comma.stops (by decide) _) afterEnds.ends same
      exact absurd afterEnds (comma.not_stops (by decide) same.symm)
    | more other comma' others =>
      simp only [Members.tokens, List.append_assoc, List.cons_append] at same
      obtain ⟨rfl, separated⟩ := Derivation.eq_of_append (comma.stops (by decide) _)
        (comma'.stops (by decide) _) same
      obtain ⟨commas, others⟩ := List.cons.inj separated
      obtain ⟨rfl, behind⟩ := Members.eq_of_append restEnds afterEnds others
      rw [Subtype.ext commas]
      exact ⟨rfl, behind⟩

end

/-- A sentence has one derivation. -/
theorem Derivation.tokens_injective {derivation other : Derivation}
    (same : derivation.tokens = other.tokens) : derivation = other := by
  have nothing : Ends [] := by simp [Stops]
  exact (Derivation.eq_of_append nothing nothing (congrArg (· ++ []) same)).1

end SchemaGrammar.TypeRef
