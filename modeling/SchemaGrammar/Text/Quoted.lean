import SchemaGrammar.Text.Printable
import SchemaGrammar.Text.Surrogate
set_option autoImplicit false

/-!
Quoted text. A text is quoted with apostrophes, or with double quotes when it holds an apostrophe
and no double quote. Inside, the quote and the backslash are escaped, tab, line feed and carriage
return have short escapes, and an unprintable character is written by its code point in two, four
or eight hexadecimal digits; so is a surrogate.
-/

namespace SchemaGrammar.Text

/-- The lower-case hexadecimal digit of a number below sixteen. -/
def hexDigit (n : Nat) : Char :=
  if n < 10 then Char.ofNat ('0'.toNat + n) else Char.ofNat ('a'.toNat + (n - 10))

/-- The last `width` hexadecimal digits of a number. -/
def hexDigits : Nat → Nat → List Char
  | 0, _ => []
  | width + 1, n => hexDigits width (n / 16) ++ [hexDigit (n % 16)]

/-- The value of a hexadecimal digit in either case. -/
def hexValue? (c : Char) : Option Nat :=
  if '0' ≤ c ∧ c ≤ '9' then some (c.toNat - '0'.toNat)
  else if 'a' ≤ c ∧ c ≤ 'f' then some (c.toNat - 'a'.toNat + 10)
  else if 'A' ≤ c ∧ c ≤ 'F' then some (c.toNat - 'A'.toNat + 10)
  else none

/-- A code unit by its number. -/
def unitEscape (code : Nat) : List Char := '\\' :: 'u' :: hexDigits 4 code

/-- The text with each surrogate written by its number. -/
def withEscapes : String → String := mapSurrogates unitEscape

/-- One character of a quoted text. -/
def quotedChar (quote : Char) (c : Char) : List Char :=
  if c = quote ∨ c = '\\' then ['\\', c]
  else if c = '\t' then ['\\', 't']
  else if c = '\n' then ['\\', 'n']
  else if c = '\r' then ['\\', 'r']
  else if isPrintable c then [c]
  else if c.toNat < 0x100 then '\\' :: 'x' :: hexDigits 2 c.toNat
  else if c.toNat < 0x10000 then unitEscape c.toNat
  else
    match surrogate? c with
    | some code => unitEscape code
    | none => '\\' :: 'U' :: hexDigits 8 c.toNat

/-- The quote that makes the fewest escapes necessary. -/
def quoteFor (text : List Char) : Char :=
  if '\'' ∈ text ∧ '"' ∉ text then '"' else '\''

def quoted (text : String) : String :=
  let quote := quoteFor text.toList
  String.ofList (quote :: text.toList.flatMap (quotedChar quote) ++ [quote])

end SchemaGrammar.Text
