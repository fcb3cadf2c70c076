import SchemaGrammar.Text.Quoted
set_option autoImplicit false

/-!
Numerals: the value of a run of digits in a base up to sixteen, and runs in which single
underscores group the digits. `takeGrouped_append_rest` says that splitting off a run loses nothing.
-/

namespace SchemaGrammar.Text

/-- The number of digits that an integer may have where it is read from a text. -/
def longestNumeral : Nat := 4300

def isDigit (c : Char) : Bool := '0' ≤ c && c ≤ '9'

def isHexDigit (c : Char) : Bool := (hexValue? c).isSome

def isBinaryDigit (c : Char) : Bool := c == '0' || c == '1'

def isOctalDigit (c : Char) : Bool := '0' ≤ c && c ≤ '7'

/-- The value of a run of digits, the most significant first. -/
def numeral (base : Nat) (digits : List Char) : Nat :=
  digits.foldl (fun value digit => value * base + (hexValue? digit).getD 0) 0

/-- The leading run of digits, in which an underscore may stand between two digits. -/
def takeGrouped (digit : Char → Bool) : List Char → List Char × List Char
  | [] => ([], [])
  | c :: rest =>
    if digit c || (c == '_' && rest.head?.any digit) then
      let (more, after) := takeGrouped digit rest
      (c :: more, after)
    else ([], c :: rest)

/-- A run of digits that starts with one. -/
def takeNumeral? (digit : Char → Bool) (text : List Char) : Option (List Char × List Char) :=
  match text with
  | c :: _ => if digit c then some (takeGrouped digit text) else none
  | [] => none

def withoutUnderscores (digits : List Char) : List Char := digits.filter (· != '_')

theorem takeGrouped_append_rest (digit : Char → Bool) (text : List Char) :
    (takeGrouped digit text).1 ++ (takeGrouped digit text).2 = text := by
  fun_induction takeGrouped digit text <;> simp_all

end SchemaGrammar.Text
