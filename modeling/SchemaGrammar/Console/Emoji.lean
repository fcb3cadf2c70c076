import SchemaGrammar.Console.EmojiNames
import SchemaGrammar.Text.Blank
set_option autoImplicit false

/-!
Emoji written by their names. A code is a name between two colons, without a blank; `-emoji` or
`-text` behind the name asks for a form. A code whose name is known is replaced, any other one is
left as it is, and the text behind it is looked at next. `replaceEmoji_of_no_colon` says that a text
without colons stays the same.
-/

namespace SchemaGrammar.Console

/-- The emoji by their names. -/
def emoji : List (String × String) :=
  ((emojiNames.splitOn "\n").flatMap (·.splitOn " ")).filterMap fun entry =>
    match entry.splitOn ":" with
    | [name, characters] => some (name, characters)
    | _ => none

/-- The lower case of a character, where this is one that occurs in a name. -/
def lowerChar : Char → Char
  | 'Ã' => 'ã'
  | 'Å' | '\u212B' => 'å'
  | 'Ç' => 'ç'
  | 'É' => 'é'
  | 'Í' => 'í'
  | 'Ô' => 'ô'
  | '\u212A' => 'k'
  | c => c.toLower

/-- The emoji with a name, in any case of its letters. -/
def emoji? (name : List Char) : Option (List Char) :=
  (emoji.lookup (String.ofList (name.map lowerChar))).map String.toList

/-- The selector for the form that a code asks for, and what follows the code. -/
def form? : List Char → Option (List Char × List Char)
  | '-' :: 'e' :: 'm' :: 'o' :: 'j' :: 'i' :: ':' :: rest => some (['\uFE0F'], rest)
  | '-' :: 't' :: 'e' :: 'x' :: 't' :: ':' :: rest => some (['\uFE0E'], rest)
  | _ => none

/-- A code behind its first colon. -/
structure EmojiCode where
  name : List Char
  selector : List Char
  after : List Char

/-- The shortest code at the start of a text, behind its first colon. -/
def code? (text : List Char) : Option EmojiCode :=
  match form? text with
  | some (selector, after) => some ⟨[], selector, after⟩
  | none =>
    match text with
    | [] => none
    | c :: rest =>
      if c = ':' then some ⟨[], [], rest⟩
      else if Text.isBlank c then none
      else (code? rest).map fun code => { code with name := c :: code.name }

theorem form?_length {text selector after : List Char}
    (h : form? text = some (selector, after)) : after.length < text.length := by
  unfold form? at h
  split at h <;> simp_all +arith

theorem code?_length {text : List Char} {code : EmojiCode} (h : code? text = some code) :
    code.after.length < text.length := by
  fun_induction code? text generalizing code with
  | case1 text selector after found =>
    cases h
    exact form?_length found
  | case2 => simp at h
  | case3 =>
    cases h
    simp
  | case4 => simp at h
  | case5 c rest _ _ _ ih =>
    obtain ⟨inner, found, same⟩ := Option.map_eq_some_iff.1 h
    subst same
    have shorter := ih found
    exact Nat.lt_succ_of_lt shorter

/-- The text with all known codes replaced. -/
def replaceEmoji : List Char → List Char
  | [] => []
  | c :: rest =>
    if c = ':' then
      match _h : code? rest with
      | some code =>
        match emoji? code.name with
        | some characters => characters ++ code.selector ++ replaceEmoji code.after
        | none => c :: rest.take (rest.length - code.after.length) ++ replaceEmoji code.after
      | none => c :: replaceEmoji rest
    else c :: replaceEmoji rest
termination_by text => text.length
decreasing_by
  · exact Nat.lt_succ_of_lt (code?_length _h)
  · exact Nat.lt_succ_of_lt (code?_length _h)
  · simp
  · simp

theorem replaceEmoji_of_no_colon {text : List Char} (h : ':' ∉ text) :
    replaceEmoji text = text := by
  induction text with
  | nil => simp [replaceEmoji]
  | cons c rest ih =>
    have first : c ≠ ':' := fun same => h (by simp [same])
    have others : ':' ∉ rest := fun inside => h (List.mem_cons_of_mem c inside)
    rw [replaceEmoji, if_neg first, ih others]

end SchemaGrammar.Console
