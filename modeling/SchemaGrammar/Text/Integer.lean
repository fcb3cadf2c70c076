import SchemaGrammar.Text.Blank
import SchemaGrammar.Text.Numeral
set_option autoImplicit false

/-!
Integers written as text. White space around the number, a sign, zeros in front, single underscores
between the digits and a fraction of zeros are all allowed; what is left must be an integer in the
usual form and not be too long.
-/

namespace SchemaGrammar.Text

/-- Why a text is read as no integer. -/
inductive IntegerFault where
  | malformed
  | tooLong
  deriving DecidableEq

/-- The text from its first digit other than zero, or from a minus sign, on; or from its last
character before a point or the end. Underscores among the leading zeros are passed over. -/
def dropLeadingZeros (previous : Char) : List Char → Option (List Char)
  | [] => some [previous]
  | c :: rest =>
    if c = '0' ∨ c = '_' then dropLeadingZeros c rest
    else if c = '.' then some (previous :: c :: rest)
    else if isDigit c ∨ c = '-' then some (c :: rest)
    else none

/-- The text without leading zeros. It must begin with a digit. -/
def significant? : List Char → Option (List Char)
  | '0' :: rest => dropLeadingZeros '0' rest
  | c :: rest => if isDigit c then some (c :: rest) else none
  | [] => none

/-- The part before a point that only zeros follow, at least one. -/
def dropZeroFraction (text : List Char) : List Char :=
  let whole := text.takeWhile (· != '.')
  let fraction := (text.drop whole.length).drop 1
  if !fraction.isEmpty && fraction.all (· == '0') then whole else text

/-- The text without underscores, if these stand alone and between other characters. -/
def ungroup (text : List Char) : List Char :=
  let rec paired : List Char → Bool
    | '_' :: '_' :: _ => true
    | _ :: rest => paired rest
    | [] => false
  if text.head? = some '_' || text.getLast? = some '_' || paired text then text
  else withoutUnderscores text

/-- The text without what the usual form of an integer has no place for. A plus sign is dropped; a
minus sign stays in front. -/
def plainForm? (text : List Char) : Option (List Char) :=
  match trim isWhiteSpace text with
  | '-' :: rest => (significant? rest).map fun rest => ungroup ('-' :: dropZeroFraction rest)
  | '+' :: rest => (significant? rest).map fun rest => ungroup (dropZeroFraction rest)
  | text => (significant? text).map fun text => ungroup (dropZeroFraction text)

/-- The value of a zero, or of digits that do not start with one. -/
def magnitude? (digits : List Char) : Option Nat :=
  if digits.isEmpty || !digits.all isDigit || (digits.head? = some '0' && 1 < digits.length)
  then none
  else some (numeral 10 digits)

/-- The value of an integer in the usual form: a minus sign if there is one, and the digits. The
sign and the digits together may not be longer than the longest numeral. -/
def readPlain (text : List Char) : Except IntegerFault Int :=
  let negative := text.head? = some '-'
  let unsigned := if negative then text.drop 1 else text
  let length := (if negative then 1 else 0) + (unsigned.takeWhile isDigit).length
  if longestNumeral < length then .error .tooLong
  else
    match magnitude? unsigned with
    | some magnitude => .ok (if negative then -magnitude else magnitude)
    | none => .error .malformed

/-- The integer that a text stands for. -/
def readInteger (text : String) : Except IntegerFault Int :=
  match plainForm? text.toList with
  | some plain => readPlain plain
  | none => .error .malformed

end SchemaGrammar.Text
