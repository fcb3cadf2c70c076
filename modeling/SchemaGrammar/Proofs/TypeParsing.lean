import SchemaGrammar.Proofs.TypeSyntax
import SchemaGrammar.Proofs.TypeTokens
set_option autoImplicit false

/-!
The parser of types reads what the grammar derives, and nothing else. `Reads` is the invariant of a
run: the tokens so far are the beginnings of the open brackets, one in the other, and of the type
that the state is about. It is kept by every step (`Reads.next`), and at the end of the text it is a
derivation. The other way round, the tokens of a derivation lead from the start of a type to its end
(`Derivation.after_tokens`).
-/

namespace SchemaGrammar.TypeRef

namespace State

/-- The state after several tokens. -/
def after : List Token → State → Except Located State
  | [], state => .ok state
  | token :: rest, state =>
    match state.next token with
    | .ok state => after rest state
    | .error located => .error located

theorem after_cons_of_ok {token : Token} {state next : State}
    (stepped : state.next token = .ok next) (rest : List Token) :
    after (token :: rest) state = after rest next := by
  rw [after, stepped]

theorem after_append_of_ok {front : List Token} {state next : State}
    (reached : after front state = .ok next) (back : List Token) :
    after (front ++ back) state = after back next := by
  induction front generalizing state with
  | nil =>
    cases reached
    rfl
  | cons token front inductionHypothesis =>
    rw [after] at reached
    rw [List.cons_append, after]
    split at reached
    · exact inductionHypothesis reached
    · cases reached

theorem run_eq (ending : Nat) (tokens : List Token) (state : State) :
    state.run ending tokens = after tokens state >>= finish ending := by
  induction tokens generalizing state with
  | nil => rfl
  | cons token tokens inductionHypothesis =>
    rw [run, after]
    rcases state.next token with located | next
    · rfl
    · exact inductionHypothesis next

/-- A type has been read in these brackets, and perhaps the next token prolongs it. -/
inductive Ended (frames : List Frame) : TypeRef → State → Prop where
  | complete (type : TypeRef) : Ended frames type (.complete frames type)
  | name (path : List String) : Ended frames ⟨path, []⟩ (.name frames path)

theorem Ended.next_eq {frames : List Frame} {type : TypeRef} {state : State}
    (ended : state.Ended frames type) {token : Token} (ends : Ends [token]) :
    state.next token = afterType frames type token := by
  have kind : token.kind ≠ .separator ∧ token.kind ≠ .openAngle := by
    simpa [Stops] using ends
  cases ended with
  | complete => rfl
  | name path => simp only [next, if_neg kind.1, if_neg kind.2]

theorem Ended.finish_eq {type : TypeRef} {state : State} (ended : state.Ended [] type)
    (column : Nat) : state.finish column = .ok type := by
  cases ended with
  | complete | name => rfl

end State

namespace Frame

/-- The type that a bracket makes when it is closed after these further members. -/
def closeAll (types : List TypeRef) : Frame → TypeRef
  | .tuple members => ⟨[], members ++ types⟩
  | .arguments path _ members => ⟨path, members ++ types⟩

theorem closeAll_singleton (type : TypeRef) (frame : Frame) :
    frame.closeAll [type] = frame.close type := by
  cases frame <;> rfl

theorem closeAll_add (type : TypeRef) (types : List TypeRef) (frame : Frame) :
    (frame.add type).closeAll types = frame.closeAll (type :: types) := by
  cases frame <;> simp [add, closeAll]

theorem closing_add (type : TypeRef) (frame : Frame) :
    (frame.add type).closing = frame.closing := by
  cases frame <;> rfl

/-- A closing bracket prolongs nothing inside. -/
theorem endsMembers_of_closing {frame : Frame} {token : Token}
    (kind : token.kind = frame.closing) (rest : List Token) : EndsMembers (token :: rest) := by
  rw [EndsMembers, stops_cons, kind]
  cases frame <;> simp [closing]

end Frame

namespace State

theorem afterType_comma {frame : Frame} {outer : List Frame} {type : TypeRef} {token : Token}
    (comma : token.kind = .comma) :
    afterType (frame :: outer) type token = .ok (.start (frame.add type :: outer) false) := by
  rw [afterType, if_pos comma]

theorem afterType_closing {frame : Frame} {outer : List Frame} {type : TypeRef} {token : Token}
    (closing : token.kind = frame.closing) :
    afterType (frame :: outer) type token = .ok (.complete outer (frame.close type)) := by
  have other : token.kind ≠ .comma := by
    have ends := stops_cons.mp (Frame.endsMembers_of_closing closing [])
    intro comma
    exact ends (by simp [comma])
  rw [afterType, if_neg other, if_pos closing]

end State

theorem Path.after_moreTokens (more : List (Lexeme .separator × Lexeme .identifier))
    (frames : List Frame) (front : List String) :
    State.after (moreTokens more) (.name frames front) =
      .ok (.name frames (front ++ more.map fun (_, segment) => segment.val.text)) := by
  induction more generalizing front with
  | nil => simp [moreTokens, State.after]
  | cons step more inductionHypothesis =>
    obtain ⟨separator, segment⟩ := step
    have separated : State.next separator.val (.name frames front) = .ok (.segment frames front) :=
      if_pos separator.property
    have named : State.next segment.val (.segment frames front) =
        .ok (.name frames (front ++ [segment.val.text])) := if_pos segment.property
    change State.after (separator.val :: segment.val :: moreTokens more) _ = _
    rw [State.after_cons_of_ok separated, State.after_cons_of_ok named, inductionHypothesis]
    simp

theorem Path.after_tokens (path : Path) (frames : List Frame) (first : Bool) :
    State.after path.tokens (.start frames first) = .ok (.name frames path.names) := by
  have named : State.next path.first.val (.start frames first) =
      .ok (.name frames [path.first.val.text]) := by
    simp only [State.next, State.atStart, path.first.property]
  rw [Path.tokens, State.after_cons_of_ok named, after_moreTokens]
  rfl

mutual

/-- The tokens of a derivation lead to the type that it stands for. -/
theorem Derivation.after_tokens : ∀ (derivation : Derivation) (frames : List Frame) (first : Bool),
    ∃ state, State.after derivation.tokens (.start frames first) = .ok state ∧
      state.Ended frames derivation.type
  | .unit opening closing, frames, first => by
    have opened : State.next opening.val (.start frames first) =
        .ok (.start (.tuple [] :: frames) true) := by
      simp only [State.next, State.atStart, opening.property]
    have closed : State.next closing.val (.start (.tuple [] :: frames) true) =
        .ok (.complete frames ⟨[], []⟩) := by
      simp only [State.next, State.atStart, closing.property]
    refine ⟨_, ?_, .complete ⟨[], []⟩⟩
    rw [Derivation.tokens, State.after_cons_of_ok opened, State.after_cons_of_ok closed]
    rfl
  | .tuple opening members closing, frames, first => by
    have opened : State.next opening.val (.start frames first) =
        .ok (.start (.tuple [] :: frames) true) := by
      simp only [State.next, State.atStart, opening.property]
    refine ⟨_, ?_, .complete ⟨[], members.types⟩⟩
    rw [Derivation.tokens, State.after_cons_of_ok opened]
    exact Members.after_tokens members (.tuple []) frames true closing.val closing.property
  | .name path, frames, first => ⟨_, path.after_tokens frames first, .name path.names⟩
  | .generic path opening members closing, frames, first => by
    have opened : State.next opening.val (.name frames path.names) =
        .ok (.start (.arguments path.names opening.val.column [] :: frames) true) := by
      simp [State.next, opening.property]
    refine ⟨_, ?_, .complete ⟨path.names, members.types⟩⟩
    rw [Derivation.tokens, State.after_append_of_ok (path.after_tokens frames first),
      State.after_cons_of_ok opened]
    exact Members.after_tokens members (.arguments path.names opening.val.column []) frames true
      closing.val closing.property

theorem Members.after_tokens : ∀ (members : Members) (frame : Frame) (outer : List Frame)
    (first : Bool) (closing : Token), closing.kind = frame.closing →
    State.after (members.tokens ++ [closing]) (.start (frame :: outer) first) =
      .ok (.complete outer (frame.closeAll members.types))
  | .last member, frame, outer, first, closing, kind => by
    obtain ⟨state, reached, ended⟩ := Derivation.after_tokens member (frame :: outer) first
    have stops : Ends [closing] := (Frame.endsMembers_of_closing kind []).ends
    have closed : state.next closing = .ok (.complete outer (frame.close member.type)) := by
      rw [ended.next_eq stops, State.afterType_closing kind]
    rw [Members.tokens, State.after_append_of_ok reached, State.after_cons_of_ok closed,
      Members.types, Frame.closeAll_singleton]
    rfl
  | .more member comma members, frame, outer, first, closing, kind => by
    obtain ⟨state, reached, ended⟩ := Derivation.after_tokens member (frame :: outer) first
    have continued : state.next comma.val =
        .ok (.start (frame.add member.type :: outer) false) := by
      rw [ended.next_eq (comma.stops (by decide) []), State.afterType_comma comma.property]
    rw [Members.tokens, List.append_assoc, State.after_append_of_ok reached, List.cons_append,
      State.after_cons_of_ok continued, Members.types, ← Frame.closeAll_add]
    exact Members.after_tokens members (frame.add member.type) outer false closing
      (kind.trans (frame.closing_add member.type).symm)

end

/-- Members with the comma behind each of them. -/
abbrev Listed := List (Derivation × Lexeme .comma)

namespace Listed

def tokens (listed : Listed) : List Token :=
  listed.flatMap fun (member, comma) => member.tokens ++ [comma.val]

def types (listed : Listed) : List TypeRef := listed.map fun (member, _) => member.type

theorem isEmpty_append_singleton (listed : Listed) (entry : Derivation × Lexeme .comma) :
    List.isEmpty (listed ++ [entry]) = false := by
  cases listed <;> rfl

/-- The members together with a last one. -/
def members (last : Derivation) : Listed → Members
  | [] => .last last
  | (member, comma) :: rest => .more member comma (members last rest)

theorem tokens_members (last : Derivation) (listed : Listed) :
    (listed.members last).tokens = listed.tokens ++ last.tokens := by
  induction listed with
  | nil => rfl
  | cons entry listed inductionHypothesis =>
    rw [members, Members.tokens, inductionHypothesis]
    simp [tokens]

theorem types_members (last : Derivation) (listed : Listed) :
    (listed.members last).types = listed.types ++ [last.type] := by
  induction listed with
  | nil => rfl
  | cons entry listed inductionHypothesis =>
    rw [members, Members.types, inductionHypothesis]
    rfl

end Listed

/-- The tokens of a bracket that is open, up to the place where its next member starts. -/
inductive Opened : Frame → Bool → List Token → Prop where
  | tuple (opening : Lexeme .openParen) (listed : Listed) :
      Opened (.tuple listed.types) listed.isEmpty (opening.val :: listed.tokens)
  | arguments (path : Path) (opening : Lexeme .openAngle) (listed : Listed) :
      Opened (.arguments path.names opening.val.column listed.types) listed.isEmpty
        (path.tokens ++ opening.val :: listed.tokens)

theorem Opened.add {frame : Frame} {first : Bool} {tokens : List Token}
    (opened : Opened frame first tokens) (member : Derivation) (comma : Lexeme .comma) :
    Opened (frame.add member.type) false (tokens ++ member.tokens ++ [comma.val]) := by
  cases opened with
  | tuple opening listed =>
    have longer := Opened.tuple opening (listed ++ [(member, comma)])
    rw [listed.isEmpty_append_singleton] at longer
    simpa [Listed.types, Listed.tokens, Frame.add] using longer
  | arguments path opening listed =>
    have longer := Opened.arguments path opening (listed ++ [(member, comma)])
    rw [listed.isEmpty_append_singleton] at longer
    simpa [Listed.types, Listed.tokens, Frame.add] using longer

/-- A bracket that is closed after a last member is a type. -/
theorem Opened.close {frame : Frame} {first : Bool} {tokens : List Token}
    (opened : Opened frame first tokens) (last : Derivation) {closing : Token}
    (kind : closing.kind = frame.closing) :
    ∃ derivation : Derivation, derivation.tokens = tokens ++ last.tokens ++ [closing] ∧
      derivation.type = frame.close last.type := by
  cases opened with
  | tuple opening listed =>
    refine ⟨.tuple opening (listed.members last) ⟨closing, kind⟩, ?_, ?_⟩
    · simp [Derivation.tokens, listed.tokens_members]
    · simp [Derivation.type, listed.types_members, Frame.close]
  | arguments path opening listed =>
    refine ⟨.generic path opening (listed.members last) ⟨closing, kind⟩, ?_, ?_⟩
    · simp [Derivation.tokens, listed.tokens_members]
    · simp [Derivation.type, listed.types_members, Frame.close]

/-- Parentheses that are closed before they have a member are the tuple without members. -/
theorem Opened.close_unit {former : List TypeRef} {first : Bool} {tokens : List Token}
    (opened : Opened (.tuple former) first tokens) (empty : first = true)
    (closing : Lexeme .closeParen) :
    ∃ derivation : Derivation, derivation.tokens = tokens ++ [closing.val] ∧
      derivation.type = ⟨[], []⟩ := by
  cases opened with
  | tuple opening listed =>
    rw [List.isEmpty_iff] at empty
    subst empty
    exact ⟨.unit opening closing, rfl, rfl⟩

theorem Opened.exists_column {path : List String} {column : Nat} {former : List TypeRef}
    {first : Bool} {tokens : List Token}
    (opened : Opened (.arguments path column former) first tokens) :
    ∃ token ∈ tokens, token.column = column := by
  cases opened with
  | arguments path opening listed => exact ⟨opening.val, by simp, rfl⟩

/-- The tokens in front of a type inside brackets. -/
inductive Front : List Frame → Bool → List Token → Prop where
  | outermost : Front [] true []
  | inside {frame : Frame} {outer : List Frame} {before first : Bool}
      {tokens opening : List Token} :
      Front outer before tokens → Opened frame first opening →
      Front (frame :: outer) first (tokens ++ opening)

/-- The tokens that lead to a state. -/
inductive Reads : List Token → State → Prop where
  | start {frames : List Frame} {first : Bool} {tokens : List Token} :
      Front frames first tokens → Reads tokens (.start frames first)
  | segment {frames : List Frame} {first : Bool} {tokens : List Token} (path : Path)
      (separator : Lexeme .separator) :
      Front frames first tokens →
      Reads (tokens ++ path.tokens ++ [separator.val]) (.segment frames path.names)
  | name {frames : List Frame} {first : Bool} {tokens : List Token} (path : Path) :
      Front frames first tokens → Reads (tokens ++ path.tokens) (.name frames path.names)
  | complete {frames : List Frame} {first : Bool} {tokens : List Token}
      (derivation : Derivation) :
      Front frames first tokens →
      Reads (tokens ++ derivation.tokens) (.complete frames derivation.type)

theorem Reads.afterType {frames : List Frame} {first : Bool} {tokens : List Token}
    (front : Front frames first tokens) (derivation : Derivation) {token : Token} {next : State}
    (stepped : State.afterType frames derivation.type token = .ok next) :
    Reads (tokens ++ derivation.tokens ++ [token]) next := by
  cases front with
  | outermost => cases stepped
  | @inside frame outer before first tokens opening front opened =>
    by_cases comma : token.kind = .comma
    · rw [State.afterType_comma comma] at stepped
      cases stepped
      have longer := Front.inside front (opened.add derivation ⟨token, comma⟩)
      simpa using Reads.start longer
    · by_cases closing : token.kind = frame.closing
      · rw [State.afterType_closing closing] at stepped
        cases stepped
        obtain ⟨closed, written, type⟩ := opened.close derivation closing
        have complete := Reads.complete closed front
        rw [written, type] at complete
        simpa using complete
      · rw [State.afterType, if_neg comma, if_neg closing] at stepped
        cases stepped

theorem Reads.atStart {frames : List Frame} {first : Bool} {tokens : List Token}
    (front : Front frames first tokens) {token : Token} {next : State}
    (stepped : State.atStart frames first token = .ok next) : Reads (tokens ++ [token]) next := by
  unfold State.atStart at stepped
  split at stepped
  · rename_i kind
    cases stepped
    exact Reads.name ⟨⟨token, kind⟩, []⟩ front
  · rename_i kind
    cases stepped
    exact Reads.start (front.inside (.tuple ⟨token, kind⟩ []))
  · rename_i former outer kind
    cases stepped
    cases front with
    | inside front opened =>
      obtain ⟨closed, written, type⟩ := opened.close_unit rfl ⟨token, kind⟩
      have complete := Reads.complete closed front
      rw [written, type] at complete
      simpa using complete
  · cases stepped
  · cases stepped

/-- Every step keeps the tokens and the state together. -/
theorem Reads.next {tokens : List Token} {state next : State} (reads : Reads tokens state)
    {token : Token} (stepped : state.next token = .ok next) : Reads (tokens ++ [token]) next := by
  cases reads with
  | start front => exact Reads.atStart front stepped
  | @segment frames first tokens path separator front =>
    by_cases kind : token.kind = .identifier
    · have stepped : next = .name frames (path.names ++ [token.text]) := by
        simpa [State.next, kind, eq_comm] using stepped
      rw [stepped]
      have longer := Reads.name ⟨path.first, path.more ++ [(separator, ⟨token, kind⟩)]⟩ front
      simpa [Path.tokens, Path.names, Path.moreTokens] using longer
    · simp [State.next, kind] at stepped
  | @name frames first tokens path front =>
    by_cases separator : token.kind = .separator
    · have stepped : next = .segment frames path.names := by
        simpa [State.next, separator, eq_comm] using stepped
      rw [stepped]
      exact Reads.segment path ⟨token, separator⟩ front
    · by_cases angle : token.kind = .openAngle
      · have stepped : next = .start (.arguments path.names token.column [] :: frames) true := by
          simpa [State.next, angle, eq_comm] using stepped
        rw [stepped]
        have opened := Opened.arguments path ⟨token, angle⟩ []
        have longer := Reads.start (front.inside opened)
        simpa [Listed.types, Listed.tokens] using longer
      · simp only [State.next, if_neg separator, if_neg angle] at stepped
        exact Reads.afterType front (.name path) stepped
  | complete derivation front => exact Reads.afterType front derivation stepped

theorem Reads.after {front tokens : List Token} {state next : State} (reads : Reads front state)
    (reached : State.after tokens state = .ok next) : Reads (front ++ tokens) next := by
  induction tokens generalizing front state with
  | nil =>
    cases reached
    simpa using reads
  | cons token tokens inductionHypothesis =>
    rw [State.after] at reached
    split at reached
    · rename_i stepped
      have later := inductionHypothesis (reads.next stepped) reached
      simpa using later
    · cases reached

/-- A text may end where the tokens are a sentence, and nowhere else. -/
theorem Reads.finish {tokens : List Token} {state : State} {column : Nat} {type : TypeRef}
    (reads : Reads tokens state) (finished : state.finish column = .ok type) :
    ∃ derivation : Derivation, derivation.tokens = tokens ∧ derivation.type = type := by
  cases reads with
  | start front => cases front <;> cases finished
  | segment => cases finished
  | name path front =>
    cases front with
    | outermost =>
      cases finished
      exact ⟨.name path, rfl, rfl⟩
    | inside => cases finished
  | complete derivation front =>
    cases front with
    | outermost =>
      cases finished
      exact ⟨derivation, rfl, rfl⟩
    | inside => cases finished

/-- The parser finds the type of a sentence, and a type for nothing else. -/
theorem State.run_eq_ok_iff {ending : Nat} {tokens : List Token} {type : TypeRef} :
    State.run ending (.start [] true) tokens = .ok type ↔
      ∃ derivation : Derivation, derivation.tokens = tokens ∧ derivation.type = type := by
  rw [State.run_eq]
  constructor
  · intro parsed
    rcases reached : State.after tokens (.start [] true) with located | state
    · rw [reached] at parsed
      cases parsed
    · rw [reached] at parsed
      have reads : Reads ([] ++ tokens) state := (Reads.start .outermost).after reached
      exact reads.finish parsed
  · intro derived
    rcases derived with ⟨derivation, rfl, rfl⟩
    obtain ⟨state, reached, ended⟩ := derivation.after_tokens [] true
    rw [reached]
    exact ended.finish_eq ending

section Columns

variable {fault : SyntaxFault} {column : Nat}

theorem State.afterType_column {frames : List Frame} {type : TypeRef} {token : Token}
    (failed : State.afterType frames type token = .error (fault, column)) :
    token.column = column := by
  unfold State.afterType at failed
  split at failed
  · cases failed
    rfl
  · split at failed
    · cases failed
    · split at failed
      · cases failed
      · cases failed
        rfl

/-- A fault lies at a token that was read. -/
theorem Reads.column_of_next {tokens : List Token} {state : State} (reads : Reads tokens state)
    {token : Token} (failed : state.next token = .error (fault, column)) :
    ∃ other ∈ tokens ++ [token], other.column = column := by
  have atToken (same : token.column = column) :
      ∃ other ∈ tokens ++ [token], other.column = column := ⟨token, by simp, same⟩
  cases reads with
  | start front =>
    simp only [State.next] at failed
    unfold State.atStart at failed
    split at failed
    · cases failed
    · cases failed
    · cases failed
    · cases failed
      cases front with
      | inside front opened =>
        obtain ⟨opening, member, same⟩ := opened.exists_column
        exact ⟨opening, by simp [member], same⟩
    · cases failed
      exact atToken rfl
  | segment =>
    simp only [State.next] at failed
    split at failed
    · cases failed
    · cases failed
      exact atToken rfl
  | name =>
    simp only [State.next] at failed
    split at failed
    · cases failed
    · split at failed
      · cases failed
      · exact atToken (State.afterType_column failed)
  | complete => exact atToken (State.afterType_column failed)

theorem Reads.column_of_after {front tokens : List Token} {state : State}
    (reads : Reads front state) (failed : State.after tokens state = .error (fault, column)) :
    ∃ token ∈ front ++ tokens, token.column = column := by
  induction tokens generalizing front state with
  | nil => cases failed
  | cons token tokens inductionHypothesis =>
    rw [State.after] at failed
    split at failed
    · rename_i stepped
      have later := inductionHypothesis (reads.next stepped) failed
      simpa using later
    · rename_i stepped
      cases failed
      obtain ⟨other, member, same⟩ := reads.column_of_next stepped
      refine ⟨other, ?_, same⟩
      rw [List.append_cons]
      exact List.mem_append_left tokens member

theorem State.finish_column {ending : Nat} {state : State}
    (failed : state.finish ending = .error (fault, column)) : column = 1 ∨ column = ending := by
  unfold State.finish at failed
  split at failed <;> cases failed <;> simp

end Columns

/-- The parser's fault lies at the first column, at a token or at the end. -/
theorem State.run_column {ending : Nat} {tokens : List Token} {fault : SyntaxFault} {column : Nat}
    (failed : State.run ending (.start [] true) tokens = .error (fault, column)) :
    column = 1 ∨ column = ending ∨ ∃ token ∈ tokens, token.column = column := by
  rw [State.run_eq] at failed
  rcases reached : State.after tokens (.start [] true) with located | state
  · rw [reached] at failed
    cases failed
    exact .inr (.inr (Reads.column_of_after (.start .outermost) reached))
  · rw [reached] at failed
    rcases State.finish_column failed with first | last
    · exact .inl first
    · exact .inr (.inl last)

/-- The token that stands for the end of a text. -/
def endToken (text : String) : Token := ⟨.ending, "", endColumn text⟩

theorem tokenize_eq_ok_iff {text : String} {tokens : List Token} :
    tokenize text = .ok (tokens ++ [endToken text]) ↔ scan 1 text.toList = .ok tokens := by
  unfold tokenize
  rcases scan 1 text.toList with unexpected | scanned
  · simp
  · simp [endToken]

theorem parse_eq_ok_iff_run {text : String} {type : TypeRef} :
    parse text = .ok type ↔
      ∃ tokens, scan 1 text.toList = .ok tokens ∧
        State.run (endColumn text) (.start [] true) tokens = .ok type := by
  unfold parse
  rcases scan 1 text.toList with unexpected | tokens
  · simp
  · simp only [Except.ok.injEq, exists_eq_left']
    rcases State.run (endColumn text) (.start [] true) tokens with ⟨fault, column⟩ | found
    · simp
    · simp

theorem parse_eq_ok_iff {text : String} {type : TypeRef} :
    parse text = .ok type ↔
      ∃ derivation : Derivation,
        tokenize text = .ok (derivation.tokens ++ [endToken text]) ∧ derivation.type = type := by
  simp only [parse_eq_ok_iff_run, State.run_eq_ok_iff, tokenize_eq_ok_iff]
  constructor
  · intro parsed
    rcases parsed with ⟨tokens, scanned, derivation, rfl, rfl⟩
    exact ⟨derivation, scanned, rfl⟩
  · intro derived
    rcases derived with ⟨derivation, scanned, rfl⟩
    exact ⟨derivation.tokens, scanned, derivation, rfl, rfl⟩

/-- The error was found in the text: at a character that begins no token, or at the first column or
a token, of which the end of the text is the last. -/
structure SyntaxError.FoundIn (error : SyntaxError) (text : String) : Prop where
  text_eq : error.text = text
  positive : 1 ≤ error.column
  bounded : error.column ≤ endColumn text
  place : tokenize text = .error error ∨
    ∃ tokens, tokenize text = .ok tokens ∧
      (error.column = 1 ∨ ∃ token ∈ tokens, token.column = error.column)

theorem Within.bounds {text : String} {place : Nat} (within : Within 1 text.toList place) :
    1 ≤ place ∧ place ≤ endColumn text := by
  unfold Within at within
  simp only [endColumn]
  omega

theorem foundIn_of_parse {text : String} {error : SyntaxError}
    (failed : parse text = .error error) : error.FoundIn text := by
  have placed := placed_scan 1 text.toList
  unfold parse at failed
  rcases scanned : scan 1 text.toList with unexpected | tokens
  · rw [scanned] at failed placed
    cases failed
    have bounds := Within.bounds placed
    exact ⟨rfl, bounds.1, bounds.2, .inl (by rw [tokenize, scanned])⟩
  · have tokenized : tokenize text = .ok (tokens ++ [endToken text]) :=
      tokenize_eq_ok_iff.mpr scanned
    rw [scanned] at failed placed
    rcases ran : State.run (endColumn text) (.start [] true) tokens with ⟨fault, column⟩ | type
    · simp only [ran] at failed
      cases failed
      rcases State.run_column ran with rfl | rfl | ⟨token, member, rfl⟩
      · exact ⟨rfl, Nat.le_refl 1, Nat.le_add_left 1 _, .inr ⟨_, tokenized, .inl rfl⟩⟩
      · have last : ∃ token ∈ tokens ++ [endToken text], token.column = endColumn text :=
          ⟨endToken text, by simp, rfl⟩
        exact ⟨rfl, Nat.le_add_left 1 _, Nat.le_refl _, .inr ⟨_, tokenized, .inr last⟩⟩
      · have bounds := Within.bounds (placed token member)
        have listed : ∃ other ∈ tokens ++ [endToken text], other.column = token.column :=
          ⟨token, by simp [member], rfl⟩
        exact ⟨rfl, bounds.1, bounds.2, .inr ⟨_, tokenized, .inr listed⟩⟩
    · simp only [ran] at failed
      cases failed

/-- The parser finds the tree of a sentence by its only derivation. For everything else it comes to
an end too, with an error that does not lie behind the end of the text. -/
theorem parse_decides_grammar (text : String) :
    (∀ type, parse text = .ok type ↔
      ∃ derivation : Derivation,
        tokenize text = .ok (derivation.tokens ++ [endToken text]) ∧ derivation.type = type) ∧
    (∀ derivation other : Derivation, derivation.tokens = other.tokens → derivation = other) ∧
    ((∀ derivation : Derivation, tokenize text ≠ .ok (derivation.tokens ++ [endToken text])) →
      ∃ error, parse text = .error error ∧ error.FoundIn text) := by
  refine ⟨fun type => parse_eq_ok_iff, fun _ _ => Derivation.tokens_injective, ?_⟩
  intro underivable
  rcases parsed : parse text with error | type
  · exact ⟨error, rfl, foundIn_of_parse parsed⟩
  · obtain ⟨derivation, derived, _⟩ := parse_eq_ok_iff.mp parsed
    exact absurd derived (underivable derivation)

end SchemaGrammar.TypeRef
