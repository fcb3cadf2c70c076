import SchemaGrammar.Console.Emoji
import SchemaGrammar.Console.Width
set_option autoImplicit false

/-!
Marked-up console text. A tag is a bracket that opens with a small letter, `#`, `/` or `@` and runs
to the next closing bracket without another opening one; it sets the style and is not shown. A
backslash before a tag makes it plain text, and two backslashes stand for one. `escape` writes a
text so that none of it is taken for a tag; `plain` is what is shown. Between the tags, emoji may be
written by their names.
-/

namespace SchemaGrammar.Console

def opensTag (c : Char) : Bool :=
  ('a' ≤ c && c ≤ 'z') || c == '#' || c == '/' || c == '@'

/-- The rest of a tag behind its first character, up to the closing bracket, and what follows. -/
def takeTag : List Char → Option (List Char × List Char)
  | [] => none
  | c :: rest =>
    if c = ']' then some ([c], rest)
    else if c = '[' then none
    else (takeTag rest).map fun (tag, after) => (c :: tag, after)

/-- The tag at the start of a text, with its brackets, and what follows. -/
def tag? : List Char → Option (List Char × List Char)
  | '[' :: c :: rest =>
    if opensTag c then (takeTag rest).map fun (tag, after) => ('[' :: c :: tag, after) else none
  | _ => none

theorem takeTag_length {text tag after : List Char} (h : takeTag text = some (tag, after)) :
    after.length < text.length := by
  induction text generalizing tag with
  | nil => simp [takeTag] at h
  | cons c rest ih =>
    unfold takeTag at h
    split at h
    · cases h
      simp
    · split at h
      · simp at h
      · obtain ⟨⟨more, others⟩, found, same⟩ := Option.map_eq_some_iff.1 h
        cases same
        have := ih found
        simp only [List.length_cons]
        omega

theorem tag?_length {text tag after : List Char} (h : tag? text = some (tag, after)) :
    after.length < text.length := by
  unfold tag? at h
  split at h
  · split at h
    · obtain ⟨⟨more, others⟩, found, same⟩ := Option.map_eq_some_iff.1 h
      cases same
      have := takeTag_length found
      simp only [List.length_cons]
      omega
    · simp at h
  · simp at h

/-- Writes the rest of a text after a number of backslashes, which are doubled before a tag. -/
def escapeFrom (backslashes : Nat) (text : List Char) : List Char :=
  match _h : tag? text with
  | some (tag, after) =>
    List.replicate (2 * backslashes + 1) '\\' ++ tag ++ escapeFrom 0 after
  | none =>
    match text with
    | [] => List.replicate backslashes '\\'
    | c :: rest =>
      if c = '\\' then escapeFrom (backslashes + 1) rest
      else List.replicate backslashes '\\' ++ c :: escapeFrom 0 rest
termination_by text.length
decreasing_by
  · exact tag?_length _h
  · simp
  · simp

/-- A text as it is written between tags. A single backslash at its end is doubled, so that it does
not meet what is written behind it. -/
def escape (text : String) : String :=
  let escaped := escapeFrom 0 text.toList
  match escaped.reverse with
  | '\\' :: '\\' :: _ => String.ofList escaped
  | '\\' :: _ => String.ofList (escaped ++ ['\\'])
  | _ => String.ofList escaped

/-- A text without tags is shown as it is, but that a backslash before a bracket is left out. -/
def showPlain : List Char → List Char
  | [] => []
  | '\\' :: '[' :: rest => '[' :: showPlain rest
  | c :: rest => c :: showPlain rest

/-- A text between two tags, or a tag that is shown, as it looks on the console. -/
def showSegment (text : List Char) : List Char := replaceEmoji (showPlain text)

/-- What is shown of the rest of a text after a run of plain text, kept backwards, and a number of
backslashes. -/
def plainFrom (run : List Char) (backslashes : Nat) (text : List Char) : List Char :=
  match _h : tag? text with
  | some (tag, after) =>
    showSegment run.reverse ++ List.replicate (backslashes / 2) '\\' ++
      (if backslashes % 2 = 1 then showSegment tag else []) ++ plainFrom [] 0 after
  | none =>
    match text with
    | [] => showSegment (List.replicate backslashes '\\' ++ run).reverse
    | c :: rest =>
      if c = '\\' then plainFrom run (backslashes + 1) rest
      else plainFrom (c :: (List.replicate backslashes '\\' ++ run)) 0 rest
termination_by text.length
decreasing_by
  · exact tag?_length _h
  · simp
  · simp

/-- The characters that a console does not show: bell, backspace, vertical tab, form feed and
carriage return. -/
def isHidden (c : Char) : Bool :=
  c == '\x07' || c == '\x08' || c == '\x0b' || c == '\x0c' || c == '\r'

/-- Fills up to the next multiple of eight columns at each tab, which itself is shown as a space.
`part` holds what stands behind the last tab on the line, backwards, and `column` tells where it
begins. -/
def expandTabs (column : Nat) (part : List Char) : List Char → List Char
  | [] => part.reverse
  | c :: rest =>
    if c = '\t' then
      let shown := (' ' :: part).reverse
      let reached := column + width shown
      let missing := (8 - reached % 8) % 8
      shown ++ List.replicate missing ' ' ++ expandTabs (reached + missing) [] rest
    else if c = '\n' then (c :: part).reverse ++ expandTabs 0 [] rest
    else expandTabs column (c :: part) rest

/-- A marked-up text as it is shown. -/
def plain (markup : String) : String :=
  String.ofList
    (expandTabs 0 [] ((plainFrom [] 0 markup.toList).filter fun c => !isHidden c))

end SchemaGrammar.Console
