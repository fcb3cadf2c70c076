import SchemaGrammar.Proofs.GrammarForm
import SchemaGrammar.Proofs.Workspace
import SchemaGrammar.TypeRef.Token
set_option autoImplicit false

/-!
Writing the grammars of a schema. The name of a grammar is an identifier and so one segment of a
path, which puts every file two levels below the output directory and files of different grammars
at different places. Writing one grammar does not get in the way of another, so that grammars which
could be written each on its own are written one after the other.
-/

namespace SchemaGrammar

namespace FilePath

theorem splitAt_of_not_mem {separator : Char} {text : List Char} (absent : separator ∉ text) :
    splitAt separator text = [text] := by
  induction text with
  | nil => rfl
  | cons c rest inductionHypothesis =>
    rw [List.mem_cons, not_or] at absent
    simp [splitAt, Ne.symm absent.1, inductionHypothesis absent.2]

/-- A text without slashes is one segment, unless it is empty or a single point. -/
theorem ofText_of_not_mem {text : String} (noSlash : '/' ∉ text.toList)
    (segment : isSegment text.toList = true) : ofText text = ⟨"", [text]⟩ := by
  have relative : rootOf text.toList = "" := by
    unfold rootOf
    split <;> simp_all
  simp [ofText, relative, splitAt_of_not_mem noSlash, segment]

end FilePath

namespace TypeRef

theorem mem_identifier {text : String} (identifier : isIdentifier text = true) {c : Char}
    (member : c ∈ text.toList) : isIdentifierChar c = true := by
  unfold isIdentifier at identifier
  split at identifier <;> rename_i characters
  · rw [characters] at member
    rw [Bool.and_eq_true, List.all_eq_true] at identifier
    rcases List.mem_cons.mp member with rfl | member
    · simp [isIdentifierChar, identifier.1]
    · exact identifier.2 c member
  · simp at identifier

theorem ofText_identifier {text : String} (identifier : isIdentifier text = true) :
    FilePath.ofText text = ⟨"", [text]⟩ := by
  apply FilePath.ofText_of_not_mem
  · intro slash
    exact absurd (mem_identifier identifier slash) (by decide)
  · have noPoint : '.' ∉ text.toList := by
      intro point
      exact absurd (mem_identifier identifier point) (by decide)
    unfold isIdentifier at identifier
    split at identifier
    · rename_i c rest characters
      have first : c ≠ '.' := by
        rintro rfl
        exact noPoint (by simp [characters])
      simp [characters, FilePath.isSegment, first]
    · simp at identifier

theorem identifier_ne_parent {text : String} (identifier : isIdentifier text = true) :
    text ≠ ".." := by
  rintro rfl
  exact absurd identifier (by decide)

end TypeRef

namespace Grammar

variable {grammar other : Grammar}

theorem directory_eq (output : FilePath) (identifier : TypeRef.isIdentifier grammar.name = true) :
    grammar.directory output = output.child grammar.name := by
  simp [directory, TypeRef.ofText_identifier identifier, FilePath.join, FilePath.isAbsolute,
    FilePath.child]

theorem file_eq (output : FilePath) (identifier : TypeRef.isIdentifier grammar.name = true) :
    grammar.file output = (output.child grammar.name).child fileName := by
  rw [file, directory_eq output identifier]

def place (workspace : Workspace) (output : FilePath) (grammar : Grammar) : Place :=
  workspace.destination (grammar.file output)

theorem place_eq (workspace : Workspace) (output : FilePath)
    (identifier : TypeRef.isIdentifier grammar.name = true) :
    grammar.place workspace output = workspace.destination output ++ [grammar.name, fileName] := by
  have ordinary : fileName ≠ ".." := by decide
  rw [place, file_eq output identifier, Workspace.destination_child_of_ne ordinary,
    Workspace.destination_child_of_ne (TypeRef.identifier_ne_parent identifier), List.append_assoc]
  simp

theorem place_injective {workspace : Workspace} {output : FilePath}
    (identifier : TypeRef.isIdentifier grammar.name = true)
    (otherIdentifier : TypeRef.isIdentifier other.name = true)
    (same : grammar.place workspace output = other.place workspace output) :
    grammar.name = other.name := by
  rw [grammar.place_eq workspace output identifier,
    other.place_eq workspace output otherIdentifier] at same
  simpa using same

/-- Grammars with different names have their files at different places. -/
theorem nodup_places {workspace : Workspace} {output : FilePath} {grammars : List Grammar}
    (identifiers : ∀ grammar ∈ grammars, TypeRef.isIdentifier grammar.name = true)
    (distinct : (grammars.map Grammar.name).Nodup) :
    (grammars.map (Grammar.place workspace output)).Nodup := by
  apply List.pairwise_map.mpr
  apply (List.pairwise_map.mp distinct).imp_of_mem
  intro first second isFirst isSecond different same
  exact different (Grammar.place_injective (identifiers first isFirst)
    (identifiers second isSecond) same)

theorem place_eq_of_current {before after : Workspace} (same : after.current = before.current)
    (output : FilePath) (grammar : Grammar) :
    grammar.place after output = grammar.place before output :=
  Workspace.destination_eq_of_current same _

end Grammar

namespace Workspace

/-- The content of the file at a place. -/
def file? (workspace : Workspace) (place : Place) : Option ByteArray :=
  match workspace.node? place with
  | some (.file content) => some content
  | _ => none

theorem file?_eq_of_node? {before after : Workspace} {place : Place}
    (same : after.node? place = before.node? place) : after.file? place = before.file? place := by
  rw [file?, file?, same]

theorem file?_eq_of_made {before after : Workspace} {place : Place}
    (missing : before.node? place = none) (made : after.node? place = some .directory) :
    after.file? place = before.file? place := by
  rw [file?, file?, missing, made]

/-- A grammar can be written to its file in an output directory. -/
def Admits (workspace : Workspace) (output : FilePath) (grammar : Grammar) : Prop :=
  workspace.Savable (grammar.directory output) Grammar.fileName

theorem saveGrammar_eq (workspace : Workspace) (output : FilePath) (indent : Option Int)
    (grammar : Grammar) :
    workspace.saveGrammar output indent grammar =
      workspace.save (grammar.directory output) Grammar.fileName
        (if Text.isEncodable (grammar.fileText indent) then (grammar.fileText indent).toUTF8
          else .empty) := rfl

/-- Writing a grammar leaves the way to the files of other grammars open. -/
theorem Admits.of_saved {workspace next : Workspace} {output : FilePath} {first second : Grammar}
    {content : ByteArray} (firstName : TypeRef.isIdentifier first.name = true)
    (secondName : TypeRef.isIdentifier second.name = true) (different : first.name ≠ second.name)
    (firstAdmitted : workspace.Admits output first)
    (secondAdmitted : workspace.Admits output second)
    (saved : Saved workspace (first.directory output) Grammar.fileName content next) :
    next.Admits output second := by
  rw [Admits, first.directory_eq output firstName] at firstAdmitted
  rw [Admits, second.directory_eq output secondName] at secondAdmitted ⊢
  rw [first.directory_eq output firstName] at saved
  exact firstAdmitted.of_saved_beside ⟨TypeRef.identifier_ne_parent firstName,
    TypeRef.identifier_ne_parent secondName, by decide⟩ different secondAdmitted saved

end Workspace

namespace Grammar

/-- The grammars before the first one whose text has no UTF-8 form. -/
def encodable (indent : Int) (grammars : List Grammar) : List Grammar :=
  grammars.takeWhile fun grammar => Text.isEncodable (grammar.fileText indent)

/-- The grammars whose files are opened: those before and the first one itself, if there is one. -/
def reached (indent : Int) (grammars : List Grammar) : List Grammar :=
  grammars.take ((encodable indent grammars).length + 1)

theorem encodable_cons (indent : Int) (grammar : Grammar) (rest : List Grammar) :
    encodable indent (grammar :: rest) =
      if Text.isEncodable (grammar.fileText indent) then grammar :: encodable indent rest
      else [] := by
  rw [encodable, List.takeWhile_cons]
  rfl

theorem reached_cons (indent : Int) (grammar : Grammar) (rest : List Grammar) :
    reached indent (grammar :: rest) =
      if Text.isEncodable (grammar.fileText indent) then grammar :: reached indent rest
      else [grammar] := by
  rw [reached, encodable_cons]
  split <;> simp [reached]

end Grammar

namespace Command

/-- The workspace after grammars have been written one after the other: whole files up to the first
grammar that has no UTF-8 form, an empty file for that one, and directories for all of them. -/
structure Written (before : Workspace) (output : FilePath) (indent : Int) (grammars : List Grammar)
    (after : Workspace) : Prop where
  current : after.current = before.current
  whole : ∀ grammar ∈ Grammar.encodable indent grammars,
    after.file? (grammar.place before output) = some (grammar.fileText indent).toUTF8
  empty : ∀ grammar rest, grammars = Grammar.encodable indent grammars ++ grammar :: rest →
    after.file? (grammar.place before output) = some .empty
  other : ∀ place, (∀ grammar ∈ Grammar.reached indent grammars,
      place ≠ grammar.place before output) →
    after.node? place = before.node? place ∨
      before.node? place = none ∧ after.node? place = some .directory ∧
        ∃ grammar ∈ Grammar.reached indent grammars, place ∈ before.way (grammar.directory output)

/-- No other file changes. -/
theorem Written.unchanged {before after : Workspace} {output : FilePath} {indent : Int}
    {grammars : List Grammar} (written : Written before output indent grammars after) {place : Place}
    (apart : ∀ grammar ∈ grammars, place ≠ grammar.place before output) :
    after.file? place = before.file? place := by
  rcases written.other place fun grammar listed => apart grammar (List.mem_of_mem_take listed) with
    same | ⟨missing, made, _⟩
  · exact Workspace.file?_eq_of_node? same
  · exact Workspace.file?_eq_of_made missing made

/-- Writing no grammars changes nothing. -/
theorem Written.nil (workspace : Workspace) (output : FilePath) (indent : Int) :
    Written workspace output indent [] workspace := by
  refine ⟨rfl, by simp [Grammar.encodable], by simp [Grammar.encodable], ?_⟩
  intro place _
  exact .inl rfl

/-- A grammar whose text has no UTF-8 form ends the writing. -/
theorem Written.last {workspace next : Workspace} {output : FilePath} {indent : Int}
    {grammar : Grammar} {rest : List Grammar} (admitted : workspace.Admits output grammar)
    (unencodable : Text.isEncodable (grammar.fileText indent) = false)
    (saved : Workspace.Saved workspace (grammar.directory output) Grammar.fileName .empty next) :
    Written workspace output indent (grammar :: rest) next := by
  have none : Grammar.encodable indent (grammar :: rest) = [] := by
    simp [Grammar.encodable_cons, unencodable]
  have first : Grammar.reached indent (grammar :: rest) = [grammar] := by
    simp [Grammar.reached_cons, unencodable]
  constructor
  case current => exact saved.current
  case whole => simp [none]
  case empty =>
    intro other others parts
    rw [none, List.nil_append] at parts
    cases parts
    have stored : next.node? (grammar.place workspace output) = some (.file .empty) := saved.file
    rw [Workspace.file?, stored]
  case other =>
    intro place apart
    rw [first] at apart ⊢
    rcases saved.other admitted (apart grammar (by simp)) with same | ⟨missing, made, passed⟩
    · exact .inl same
    · exact .inr ⟨missing, made, grammar, by simp, passed⟩

/-- A grammar that has been written stays while others are written after it. -/
theorem Written.cons {workspace next after : Workspace} {output : FilePath} {indent : Int}
    {grammar : Grammar} {rest : List Grammar}
    (identifiers : ∀ other ∈ grammar :: rest, TypeRef.isIdentifier other.name = true)
    (unused : grammar.name ∉ rest.map Grammar.name)
    (admitted : workspace.Admits output grammar)
    (encodable : Text.isEncodable (grammar.fileText indent) = true)
    (saved : Workspace.Saved workspace (grammar.directory output) Grammar.fileName
      (grammar.fileText indent).toUTF8 next)
    (written : Written next output indent rest after) :
    Written workspace output indent (grammar :: rest) after := by
  have whole : Grammar.encodable indent (grammar :: rest) =
      grammar :: Grammar.encodable indent rest := by
    simp [Grammar.encodable_cons, encodable]
  have reached : Grammar.reached indent (grammar :: rest) =
      grammar :: Grammar.reached indent rest := by
    simp [Grammar.reached_cons, encodable]
  have places := Grammar.place_eq_of_current saved.current output
  constructor
  case current => exact written.current.trans saved.current
  case whole =>
    rw [whole]
    intro other listed
    rcases List.mem_cons.mp listed with rfl | later
    · have stored : next.node? (other.place workspace output) =
          some (.file (other.fileText indent).toUTF8) := saved.file
      -- Names differ, and so do the places of the files that are written later.
      have apart : ∀ later ∈ Grammar.reached indent rest,
          other.place workspace output ≠ later.place next output := by
        intro later reached same
        have listed := List.mem_of_mem_take reached
        rw [places] at same
        have name := Grammar.place_injective (identifiers other (by simp))
          (identifiers later (by simp [listed])) same
        exact unused (List.mem_map.mpr ⟨later, listed, name.symm⟩)
      rcases written.other _ apart with same | ⟨missing, _⟩
      · rw [Workspace.file?, same, stored]
      · simp [stored] at missing
    · rw [← places]
      exact written.whole other later
  case empty =>
    intro other others parts
    rw [whole, List.cons_append, List.cons.injEq] at parts
    rw [← places]
    exact written.empty other others parts.2
  case other =>
    intro place apart
    rw [reached, List.forall_mem_cons] at apart
    rw [reached]
    have later : ∀ other ∈ Grammar.reached indent rest, place ≠ other.place next output := by
      intro other listed
      rw [places]
      exact apart.2 other listed
    rcases written.other place later with same | ⟨missing, made, other, listed, passed⟩
    · rw [same]
      rcases saved.other admitted apart.1 with same | ⟨missing, made, passed⟩
      · exact .inl same
      · exact .inr ⟨missing, made, grammar, by simp, passed⟩
    · rcases saved.other admitted apart.1 with same | ⟨_, found, _⟩
      · rw [Workspace.way_eq_of_current saved.current] at passed
        exact .inr ⟨same ▸ missing, made, other, by simp [listed], passed⟩
      · simp [found] at missing

/-- Grammars that can be written each on its own are written one after the other, up to the first
whose text has no UTF-8 form. -/
theorem write_spec (output : FilePath) (indent : Int) {grammars : List Grammar}
    {workspace : Workspace}
    (identifiers : ∀ grammar ∈ grammars, TypeRef.isIdentifier grammar.name = true)
    (distinct : (grammars.map Grammar.name).Nodup)
    (admitted : ∀ grammar ∈ grammars, workspace.Admits output grammar) :
    (write output indent grammars workspace).written = Grammar.encodable indent grammars ∧
      (write output indent grammars workspace).failure =
        (if grammars.all fun grammar => Text.isEncodable (grammar.fileText indent) then none
          else some .notEncodable) ∧
      Written workspace output indent grammars (write output indent grammars workspace).workspace := by
  induction grammars generalizing workspace with
  | nil => exact ⟨rfl, rfl, .nil workspace output indent⟩
  | cons grammar rest inductionHypothesis =>
    have admits := admitted grammar (by simp)
    obtain ⟨next, made⟩ := admits.exists_save
      (if Text.isEncodable (grammar.fileText indent) then (grammar.fileText indent).toUTF8
        else .empty)
    obtain ⟨_, saved⟩ := Workspace.save_eq_ok made
    rw [← Workspace.saveGrammar_eq] at made
    by_cases encodable : Text.isEncodable (grammar.fileText indent) = true
    · rw [if_pos encodable] at saved
      rw [List.map_cons, List.nodup_cons] at distinct
      have others : ∀ other ∈ rest, next.Admits output other := by
        intro other listed
        refine admits.of_saved (identifiers grammar (by simp)) (identifiers other (by simp [listed]))
          ?_ (admitted other (by simp [listed])) saved
        intro same
        exact distinct.1 (List.mem_map.mpr ⟨other, listed, same.symm⟩)
      obtain ⟨list, failure, written⟩ := inductionHypothesis
        (fun other listed => identifiers other (by simp [listed])) distinct.2 others
      rw [write.eq_def]
      simp only [made, encodable, if_true]
      refine ⟨?_, ?_, written.cons identifiers distinct.1 admits encodable saved⟩
      · simp [Grammar.encodable_cons, encodable, list]
      · simp [failure, encodable]
    · rw [if_neg encodable] at saved
      have unencodable := Bool.eq_false_iff.mpr encodable
      rw [write.eq_def]
      simp only [made, if_neg encodable]
      refine ⟨?_, ?_, .last admits unencodable saved⟩
      · simp [Grammar.encodable_cons, unencodable]
      · simp [unencodable]

end Command

end SchemaGrammar
