import Mathlib.Data.List.Basic
import Mathlib.Order.Bounds.Basic
import SchemaGrammar.Proofs.TypeParsing
set_option autoImplicit false

/-!
Where a text stops being a type. From every state of the parser further tokens lead to a type
(`State.exists_completion`), and so the tokens on which it has not stopped are exactly those that a
sentence begins with (`exists_after_iff`). The first token that no sentence has there is therefore
the one at which the parser stops, and it tells the column of that token; but it tells the first
column of a text without tokens, and for angle brackets with nothing between them the column of the
opening one.
-/

namespace SchemaGrammar.TypeRef

/-- A sentence, with the end of the text behind it, begins with these tokens. -/
def Viable (ending : Token) (front : List Token) : Prop :=
  ∃ derivation : Derivation, front <+: derivation.tokens ++ [ending]

/-- The column that is told for a token behind those that a sentence begins with. -/
def offenceColumn (front : List Token) (token : Token) : Nat :=
  match front.getLast? with
  | none => if token.kind = .ending then 1 else token.column
  | some last =>
    if last.kind = .openAngle ∧ token.kind = .closeAngle then last.column else token.column

namespace State

/-- The brackets that close the open ones, innermost first. -/
def closings (frames : List Frame) : List Token :=
  frames.map fun frame => ⟨frame.closing, "", 0⟩

/-- A type that has been read inside brackets is a part of one that is read when these are
closed. -/
theorem Ended.exists_run_closings {frames : List Frame} {type : TypeRef} {state : State}
    (ended : state.Ended frames type) :
    ∃ whole, ∀ ending, state.run ending (closings frames) = .ok whole := by
  induction frames generalizing type state with
  | nil => exact ⟨type, ended.finish_eq⟩
  | cons frame outer inductionHypothesis =>
    obtain ⟨whole, closed⟩ := inductionHypothesis (.complete (frame.close type))
    have kind : (Token.mk frame.closing "" 0).kind = frame.closing := rfl
    have stops : Ends [⟨frame.closing, "", 0⟩] := (Frame.endsMembers_of_closing kind []).ends
    have stepped :
        state.next ⟨frame.closing, "", 0⟩ = .ok (.complete outer (frame.close type)) := by
      rw [ended.next_eq stops, afterType_closing kind]
    refine ⟨whole, fun ending => ?_⟩
    rw [closings, List.map_cons, run, stepped]
    exact closed ending

/-- Every state leads to a type. -/
theorem exists_completion (state : State) :
    ∃ rest whole, ∀ ending, state.run ending rest = .ok whole := by
  cases state with
  | start frames first =>
    have ended : Ended frames ⟨["T"], []⟩ (.name frames ["T"]) := .name ["T"]
    obtain ⟨whole, closed⟩ := ended.exists_run_closings
    exact ⟨⟨.identifier, "T", 0⟩ :: closings frames, whole, closed⟩
  | segment frames path =>
    have ended : Ended frames ⟨path ++ ["T"], []⟩ (.name frames (path ++ ["T"])) := .name _
    obtain ⟨whole, closed⟩ := ended.exists_run_closings
    exact ⟨⟨.identifier, "T", 0⟩ :: closings frames, whole, closed⟩
  | name frames path => exact ⟨_, (Ended.name path).exists_run_closings⟩
  | complete frames type => exact ⟨_, (Ended.complete type).exists_run_closings⟩

theorem after_append_eq_ok_iff {front back : List Token} {state last : State} :
    after (front ++ back) state = .ok last ↔
      ∃ middle, after front state = .ok middle ∧ after back middle = .ok last := by
  induction front generalizing state with
  | nil => simp [after]
  | cons token front inductionHypothesis =>
    rw [List.cons_append, after, after]
    rcases state.next token with located | next
    · simp
    · exact inductionHypothesis

theorem after_singleton_eq_ok_iff {token : Token} {state last : State} :
    after [token] state = .ok last ↔ state.next token = .ok last := by
  rw [after]
  rcases state.next token with located | next
  · simp
  · simp [after]

end State

/-- A sentence begins with some tokens exactly when the parser has not stopped on them. -/
theorem exists_after_iff {front : List Token} :
    (∃ state, State.after front (.start [] true) = .ok state) ↔
      ∃ derivation : Derivation, front <+: derivation.tokens := by
  constructor
  · intro reached
    rcases reached with ⟨state, reached⟩
    obtain ⟨rest, whole, completed⟩ := state.exists_completion
    have ran : State.run 0 (.start [] true) (front ++ rest) = .ok whole := by
      rw [State.run_eq, State.after_append_of_ok reached, ← State.run_eq]
      exact completed 0
    obtain ⟨derivation, written, _⟩ := State.run_eq_ok_iff.mp ran
    exact ⟨derivation, rest, written.symm⟩
  · intro derived
    rcases derived with ⟨derivation, rest, written⟩
    obtain ⟨state, reached, _⟩ := derivation.after_tokens [] true
    rw [← written, State.after_append_eq_ok_iff] at reached
    obtain ⟨middle, reached, _⟩ := reached
    exact ⟨middle, reached⟩

/-- What the last token tells of the state behind it. -/
inductive Follows (token : Token) : State → Prop where
  | name (kind : token.kind = .identifier) (frames : List Frame) (path : List String) :
      Follows token (.name frames path)
  | segment (kind : token.kind = .separator) (frames : List Frame) (path : List String) :
      Follows token (.segment frames path)
  | tuple (kind : token.kind = .openParen) (frames : List Frame) :
      Follows token (.start (.tuple [] :: frames) true)
  | arguments (kind : token.kind = .openAngle) (frames : List Frame) (path : List String) :
      Follows token (.start (.arguments path token.column [] :: frames) true)
  | member (kind : token.kind = .comma) (frame : Frame) (outer : List Frame) :
      Follows token (.start (frame :: outer) false)
  | complete (kind : token.kind = .closeParen ∨ token.kind = .closeAngle) (frames : List Frame)
      (type : TypeRef) : Follows token (.complete frames type)

theorem Follows.ne_ending {token : Token} {state : State} (follows : Follows token state) :
    token.kind ≠ .ending := by
  cases follows with
  | complete kind => rcases kind with kind | kind <;> simp [kind]
  | name kind | segment kind | tuple kind | arguments kind | member kind => simp [kind]

theorem Follows.ne_outermost {token : Token} {state : State} (follows : Follows token state)
    (first : Bool) : state ≠ .start [] first := by
  cases follows <;> simp

theorem Follows.eq_start {token : Token} {state : State} (follows : Follows token state)
    (kind : token.kind = .openAngle) :
    ∃ path frames, state = .start (.arguments path token.column [] :: frames) true := by
  cases follows <;> simp_all

theorem Follows.kind_of_start {token : Token} {path : List String} {column : Nat}
    {members : List TypeRef} {outer : List Frame}
    (follows : Follows token (.start (.arguments path column members :: outer) true)) :
    token.kind = .openAngle := by
  cases follows
  assumption

namespace State

theorem follows_of_afterType {frames : List Frame} {type : TypeRef} {token : Token}
    {next : State} (stepped : afterType frames type token = .ok next) : Follows token next := by
  unfold afterType at stepped
  split at stepped
  · cases stepped
  · split at stepped
    · cases stepped
      exact .member ‹_› _ _
    · split at stepped
      · cases stepped
        refine .complete ?_ _ _
        rename_i frame outer comma closing
        cases frame <;> simp_all [Frame.closing]
      · cases stepped

theorem follows_of_next {token : Token} {state next : State}
    (stepped : state.next token = .ok next) : Follows token next := by
  cases state with
  | start frames first =>
    simp only [State.next] at stepped
    unfold atStart at stepped
    split at stepped <;> cases stepped
    · exact .name ‹_› _ _
    · exact .tuple ‹_› _
    · exact .complete (.inl ‹_›) _ _
  | segment frames path =>
    simp only [State.next] at stepped
    split at stepped <;> cases stepped
    exact .name ‹_› _ _
  | name frames path =>
    simp only [State.next] at stepped
    split at stepped
    · cases stepped
      exact .segment ‹_› _ _
    · split at stepped
      · cases stepped
        exact .arguments ‹_› _ _
      · exact follows_of_afterType stepped
  | complete frames type => exact follows_of_afterType stepped

/-- A state is the first one, or the last token is known. -/
theorem follows_of_after {front : List Token} {state : State}
    (reached : after front (.start [] true) = .ok state) :
    (front = [] ∧ state = .start [] true) ∨
      ∃ init last, front = init ++ [last] ∧ Follows last state := by
  rcases List.eq_nil_or_concat' front with rfl | ⟨init, last, rfl⟩
  · cases reached
    exact .inl ⟨rfl, rfl⟩
  · obtain ⟨middle, _, stepped⟩ := after_append_eq_ok_iff.mp reached
    exact .inr ⟨init, last, rfl, follows_of_next (after_singleton_eq_ok_iff.mp stepped)⟩

theorem kind_ne_ending_of_after {tokens : List Token} {state last : State}
    (reached : after tokens state = .ok last) : ∀ token ∈ tokens, token.kind ≠ .ending := by
  induction tokens generalizing state with
  | nil => simp
  | cons token tokens inductionHypothesis =>
    rw [← List.singleton_append, after_append_eq_ok_iff] at reached
    obtain ⟨next, stepped, reached⟩ := reached
    have follows := follows_of_next (after_singleton_eq_ok_iff.mp stepped)
    exact List.forall_mem_cons.mpr ⟨follows.ne_ending, inductionHypothesis reached⟩

/-- A token that stops the parser gives the column, unless it closes angle brackets that are still
empty. -/
theorem column_of_next {token : Token} {state : State} {fault : SyntaxFault} {column : Nat}
    (failed : state.next token = .error (fault, column)) :
    column = token.column ∨ token.kind = .closeAngle ∧ ∃ path members outer,
      state = .start (.arguments path column members :: outer) true := by
  cases state with
  | start frames first =>
    simp only [State.next] at failed
    unfold atStart at failed
    split at failed <;> cases failed
    · exact .inr ⟨‹_›, _, _, _, rfl⟩
    · exact .inl rfl
  | segment frames path =>
    simp only [State.next] at failed
    split at failed <;> cases failed
    exact .inl rfl
  | name frames path =>
    simp only [State.next] at failed
    split at failed
    · cases failed
    · split at failed
      · cases failed
      · exact .inl (afterType_column failed).symm
  | complete frames type => exact .inl (afterType_column failed).symm

/-- The column of a token that stops the parser. -/
theorem offenceColumn_of_next {front : List Token} {token : Token} {state : State}
    {fault : SyntaxFault} {column : Nat} (reached : after front (.start [] true) = .ok state)
    (failed : state.next token = .error (fault, column)) (other : token.kind ≠ .ending) :
    column = offenceColumn front token := by
  rcases follows_of_after reached with ⟨rfl, rfl⟩ | ⟨init, last, rfl, follows⟩
  · rcases column_of_next failed with same | ⟨_, path, members, outer, start⟩
    · simp [offenceColumn, other, same]
    · cases start
  · simp only [offenceColumn, List.getLast?_concat]
    by_cases empty : last.kind = .openAngle ∧ token.kind = .closeAngle
    · rw [if_pos empty]
      obtain ⟨path, frames, rfl⟩ := follows.eq_start empty.1
      simp only [State.next, atStart, empty.2] at failed
      cases failed
      rfl
    · rw [if_neg empty]
      rcases column_of_next failed with same | ⟨kind, path, members, outer, rfl⟩
      · exact same
      · exact absurd ⟨follows.kind_of_start, kind⟩ empty

/-- The column of the end of a text, if the parser stops there. -/
theorem offenceColumn_of_finish {tokens : List Token} {ending : Token} {state : State}
    {fault : SyntaxFault} {column : Nat} (kind : ending.kind = .ending)
    (reached : after tokens (.start [] true) = .ok state)
    (failed : state.finish ending.column = .error (fault, column)) :
    column = offenceColumn tokens ending := by
  rcases follows_of_after reached with ⟨rfl, rfl⟩ | ⟨init, last, rfl, follows⟩
  · cases failed
    simp [offenceColumn, kind]
  · have atEnd : column = ending.column := by
      unfold finish at failed
      split at failed <;> cases failed
      · exact absurd rfl (follows.ne_outermost _)
      · rfl
      · rfl
      · rfl
      · rfl
    simp [offenceColumn, kind, atEnd]

end State

/-- The parser stops at a token, or at the end of the text. -/
theorem State.run_eq_error {ending : Nat} {tokens : List Token} {state : State}
    {located : Located} (failed : State.run ending state tokens = .error located) :
    (∃ front token back reached, tokens = front ++ token :: back ∧
      State.after front state = .ok reached ∧ reached.next token = .error located) ∨
    ∃ reached, State.after tokens state = .ok reached ∧ reached.finish ending = .error located := by
  induction tokens generalizing state with
  | nil => exact .inr ⟨state, rfl, failed⟩
  | cons token tokens inductionHypothesis =>
    rw [State.run] at failed
    split at failed
    · rename_i next stepped
      rcases inductionHypothesis failed with
        ⟨front, stop, back, reached, rfl, before, stopped⟩ | ⟨reached, before, stopped⟩
      · refine .inl ⟨token :: front, stop, back, reached, rfl, ?_, stopped⟩
        rw [State.after_cons_of_ok stepped, before]
      · refine .inr ⟨reached, ?_, stopped⟩
        rw [State.after_cons_of_ok stepped, before]
    · rename_i stopped
      cases failed
      exact .inl ⟨[], token, tokens, state, rfl, rfl, stopped⟩

theorem Viable.of_prefix {ending : Token} {front longer : List Token}
    (viable : Viable ending longer) (shorter : front <+: longer) : Viable ending front := by
  obtain ⟨derivation, begins⟩ := viable
  exact ⟨derivation, shorter.trans begins⟩

/-- A sentence begins with tokens of the text exactly when the parser has not stopped on them. -/
theorem viable_iff_after {ending : Token} {front : List Token} (inside : ending ∉ front) :
    Viable ending front ↔ ∃ state, State.after front (.start [] true) = .ok state := by
  rw [exists_after_iff]
  constructor
  · intro viable
    obtain ⟨derivation, begins⟩ := viable
    rcases List.prefix_concat_iff.mp begins with whole | part
    · exact absurd (by simp [whole]) inside
    · exact ⟨derivation, part⟩
  · intro derived
    obtain ⟨derivation, begins⟩ := derived
    exact ⟨derivation, begins.trans (List.prefix_append _ _)⟩

/-- The text may only end where the parser accepts its end. -/
theorem exists_run_of_viable {ending : Token} {tokens : List Token} (kind : ending.kind = .ending)
    (viable : Viable ending (tokens ++ [ending])) :
    ∃ type, State.run ending.column (.start [] true) tokens = .ok type := by
  obtain ⟨derivation, begins⟩ := viable
  rcases List.prefix_concat_iff.mp begins with whole | part
  · have same := List.append_cancel_right whole
    exact ⟨derivation.type, State.run_eq_ok_iff.mpr ⟨derivation, same.symm, rfl⟩⟩
  · obtain ⟨state, reached⟩ := exists_after_iff.mpr ⟨derivation, part⟩
    exact absurd kind (State.kind_ne_ending_of_after reached ending (by simp))

/-- The first place behind which no sentence goes on. -/
theorem isLeast_of_not_viable {ending token : Token} {front : List Token} (back : List Token)
    (viable : Viable ending front) (stuck : ¬ Viable ending (front ++ [token])) :
    IsLeast {place | ¬ Viable ending ((front ++ token :: back).take (place + 1))} front.length := by
  constructor
  · rw [Set.mem_ofPred_eq, List.append_cons, List.take_left' (by simp)]
    exact stuck
  · intro place offends
    by_contra before
    refine offends (viable.of_prefix ?_)
    rw [List.take_append_of_le_length (by omega)]
    exact List.take_prefix _ _

/-- The parser stops at the first token that no sentence has in its place. -/
theorem State.exists_offence_of_run {ending : Token} {tokens : List Token} {fault : SyntaxFault}
    {column : Nat} (kind : ending.kind = .ending) (others : ∀ token ∈ tokens, token.kind ≠ .ending)
    (failed : State.run ending.column (.start [] true) tokens = .error (fault, column)) :
    ∃ front token back, tokens ++ [ending] = front ++ token :: back ∧
      Viable ending front ∧ ¬ Viable ending (front ++ [token]) ∧
      column = offenceColumn front token := by
  rcases State.run_eq_error failed with
    ⟨front, token, back, state, rfl, reached, stopped⟩ | ⟨state, reached, stopped⟩
  · have inFront : ∀ other ∈ front ++ [token], other.kind ≠ .ending := by
      intro other member
      apply others other
      rw [List.append_cons]
      exact List.mem_append_left back member
    have notEnding : ending ∉ front ++ [token] := fun member => inFront ending member kind
    refine ⟨front, token, back ++ [ending], by simp, ?_, ?_, ?_⟩
    · exact (viable_iff_after fun member => notEnding (by simp [member])).mpr ⟨state, reached⟩
    · rw [viable_iff_after notEnding]
      intro further
      obtain ⟨last, further⟩ := further
      obtain ⟨middle, before, stepped⟩ := State.after_append_eq_ok_iff.mp further
      rw [reached] at before
      cases before
      rw [State.after_singleton_eq_ok_iff, stopped] at stepped
      cases stepped
    · exact State.offenceColumn_of_next reached stopped (inFront token (by simp))
  · have notEnding : ending ∉ tokens := fun member => others ending member kind
    refine ⟨tokens, ending, [], rfl, (viable_iff_after notEnding).mpr ⟨state, reached⟩, ?_, ?_⟩
    · intro viable
      obtain ⟨type, accepted⟩ := exists_run_of_viable kind viable
      rw [failed] at accepted
      cases accepted
    · exact State.offenceColumn_of_finish kind reached stopped

theorem parse_eq_error_of_run {text : String} {tokens : List Token} {error : SyntaxError}
    (scanned : scan 1 text.toList = .ok tokens) (rejected : parse text = .error error) :
    State.run (endColumn text) (.start [] true) tokens = .error (error.fault, error.column) := by
  rw [parse, scanned] at rejected
  dsimp only at rejected
  split at rejected
  · cases rejected
  · rename_i failed
    cases rejected
    exact failed

/-- A text that is no type is an error at its first token that no sentence has at that place. -/
theorem parse_error_at_first_offence {text : String} {tokens : List Token} {error : SyntaxError}
    (tokenized : tokenize text = .ok tokens) (rejected : parse text = .error error) :
    ∃ front token back, tokens = front ++ token :: back ∧
      IsLeast {place | ¬ Viable (endToken text) (tokens.take (place + 1))} front.length ∧
      error.column = offenceColumn front token ∧
      1 ≤ error.column ∧ error.column ≤ text.toList.length + 1 := by
  have found := foundIn_of_parse rejected
  obtain ⟨scanned, within, rfl⟩ : ∃ scanned, scan 1 text.toList = .ok scanned ∧
      scanned ++ [endToken text] = tokens := by
    unfold tokenize at tokenized
    rcases scanned : scan 1 text.toList with unexpected | scanned
    · simp [scanned] at tokenized
    · simpa [scanned, endToken] using tokenized
  have others : ∀ token ∈ scanned, token.kind ≠ .ending := fun token member =>
    (spelling_of_scan within token member).ne_ending
  have ending : (endToken text).kind = .ending := rfl
  obtain ⟨front, token, back, split, viable, stuck, column⟩ :=
    State.exists_offence_of_run ending others (parse_eq_error_of_run within rejected)
  rw [split]
  exact ⟨front, token, back, rfl, isLeast_of_not_viable back viable stuck, column, found.positive,
    found.bounded⟩

/-- For brackets with nothing but a blank between them the column is that of the opening one. -/
theorem emptyArguments_at_opening :
    ∃ tokens error, tokenize "Map<A, Vec< >>" = .ok tokens ∧ parse "Map<A, Vec< >>" = .error error ∧
      error.column = 11 ∧ ∃ front token back, tokens = front ++ token :: back ∧
        IsLeast {place | ¬ Viable (endToken "Map<A, Vec< >>") (tokens.take (place + 1))}
          front.length ∧ offenceColumn front token = 11 := by
  have scanned : scan 1 "Map<A, Vec< >>".toList =
      .ok [⟨.identifier, "Map", 1⟩, ⟨.openAngle, "<", 4⟩, ⟨.identifier, "A", 5⟩, ⟨.comma, ",", 6⟩,
        ⟨.identifier, "Vec", 8⟩, ⟨.openAngle, "<", 11⟩, ⟨.closeAngle, ">", 13⟩,
        ⟨.closeAngle, ">", 14⟩] := by
    decide +kernel
  have tokenized := tokenize_eq_ok_iff.mpr scanned
  have rejected : parse "Map<A, Vec< >>" = .error ⟨.emptyArguments, "Map<A, Vec< >>", 11⟩ := by
    rw [parse, scanned]
    rfl
  obtain ⟨front, token, back, split, least, column, _⟩ :=
    parse_error_at_first_offence tokenized rejected
  exact ⟨_, _, tokenized, rejected, rfl, front, token, back, split, least, column.symm⟩

end SchemaGrammar.TypeRef
