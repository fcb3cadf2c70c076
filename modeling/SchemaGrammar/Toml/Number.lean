import SchemaGrammar.DocumentFault
import SchemaGrammar.Text.Numeral
import SchemaGrammar.Value
set_option autoImplicit false

/-!
Numbers, dates and times of a TOML document. A date that its month does not have makes the document
unreadable; everything else that is no date or time is tried as a number. Decimal integers, unlike
those in other bases, have a limit on the number of their digits.
-/

namespace SchemaGrammar.Toml

/-- Reads exactly so many decimal digits. -/
def readDigits : Nat → Nat → List Char → Option (Nat × List Char)
  | 0, value, text => some (value, text)
  | _ + 1, _, [] => none
  | count + 1, value, c :: rest =>
    if Text.isDigit c then
      readDigits count (value * 10 + (Text.hexValue? c).getD 0) rest
    else none

def readChar (expected : Char) (text : List Char) : Option (List Char) :=
  match text with
  | c :: rest => if c = expected then some rest else none
  | [] => none

/-- A number of two digits within bounds. -/
def readPair (least greatest : Nat) (text : List Char) : Option (Nat × List Char) := do
  let (value, rest) ← readDigits 2 0 text
  if least ≤ value ∧ value ≤ greatest then some (value, rest) else none

def readDate (text : List Char) : Option (Date × List Char) := do
  let (year, rest) ← readDigits 4 0 text
  let (month, rest) ← readPair 1 12 (← readChar '-' rest)
  let (day, rest) ← readPair 1 31 (← readChar '-' rest)
  some (⟨year, month, day⟩, rest)

/-- A fraction of a second in microseconds; digits after the sixth are dropped. -/
def readSecondFraction (text : List Char) : Nat × List Char :=
  match text with
  | '.' :: rest =>
    let digits := rest.takeWhile Text.isDigit
    if digits.isEmpty then (0, text)
    else
      let six := digits.take 6
      (Text.numeral 10 (six ++ List.replicate (6 - six.length) '0'), rest.drop digits.length)
  | _ => (0, text)

def readTime (text : List Char) : Option (TimeOfDay × List Char) := do
  let (hour, rest) ← readPair 0 23 text
  let (minute, rest) ← readPair 0 59 (← readChar ':' rest)
  let (second, rest) ← readPair 0 59 (← readChar ':' rest)
  let (microsecond, rest) := readSecondFraction rest
  some (⟨hour, minute, second, microsecond⟩, rest)

/-- An offset from universal time in minutes. -/
def readOffset (text : List Char) : Option (Int × List Char) :=
  match text with
  | [] => none
  | sign :: rest =>
    if sign = 'Z' ∨ sign = 'z' then some (0, rest)
    else if sign = '+' ∨ sign = '-' then do
      let (hour, rest) ← readPair 0 23 rest
      let (minute, rest) ← readPair 0 59 (← readChar ':' rest)
      let offset : Int := hour * 60 + minute
      some (if sign = '-' then -offset else offset, rest)
    else none

/-- The time and the offset behind a date, if there is a time. -/
def readMoment (date : Date) (text : List Char) : Moment × List Char :=
  let withTime : Option (Moment × List Char) :=
    match text with
    | mark :: rest =>
      if mark = 'T' ∨ mark = 't' ∨ mark = ' ' then do
        let (time, rest) ← readTime rest
        match readOffset rest with
        | some (offset, rest) => some (.dateTime date time (some offset), rest)
        | none => some (.dateTime date time none, rest)
      else none
    | [] => none
  withTime.getD (.date date, text)

/-- An integer in another base, behind the zero and the letter. -/
def readBased (base : Nat) (digit : Char → Bool) (text : List Char) :
    Option (Value × List Char) := do
  let (digits, rest) ← Text.takeNumeral? digit text
  some (.integer (Text.numeral base (Text.withoutUnderscores digits) : Nat), rest)

/-- The digits behind a point, if there are any. -/
def readFraction (text : List Char) : List Char × List Char :=
  match text with
  | '.' :: rest => (Text.takeNumeral? Text.isDigit rest).getD ([], text)
  | _ => ([], text)

/-- The exponent of a number, if there is one. -/
def readExponent (text : List Char) : Option (Int × List Char) :=
  match text with
  | [] => none
  | e :: rest =>
    if e = 'e' ∨ e = 'E' then do
      let negative := rest.head? = some '-'
      let unsigned := if negative ∨ rest.head? = some '+' then rest.drop 1 else rest
      let (digits, rest) ← Text.takeNumeral? Text.isDigit unsigned
      let value : Int := Text.numeral 10 (Text.withoutUnderscores digits)
      some (if negative then -value else value, rest)
    else none

/-- The digits of a whole number: a zero alone, or digits that start with another one. -/
def readWhole (text : List Char) : Option (List Char × List Char) :=
  match text with
  | '0' :: rest => some (['0'], rest)
  | _ => Text.takeNumeral? Text.isDigit text

/-- A decimal number; a fraction or an exponent makes it a floating-point number. -/
def readDecimal (text : List Char) : Except DocumentFault (Value × List Char) := do
  let negative := text.head? = some '-'
  let unsigned := if negative ∨ text.head? = some '+' then text.drop 1 else text
  let (whole, afterWhole) ← DocumentFault.expect (readWhole unsigned)
  let (fraction, afterFraction) := readFraction afterWhole
  let whole := Text.withoutUnderscores whole
  let fraction := Text.withoutUnderscores fraction
  match readExponent afterFraction with
  | some (exponent, rest) =>
    pure (.float (.ofDecimal negative (Text.numeral 10 (whole ++ fraction))
      (exponent - fraction.length)), rest)
  | none =>
    if !fraction.isEmpty then
      pure (.float (.ofDecimal negative (Text.numeral 10 (whole ++ fraction))
        (-(fraction.length : Int))), afterFraction)
    else if Text.longestNumeral < whole.length then .error .longInteger
    else
      let value : Int := Text.numeral 10 whole
      pure (.integer (if negative then -value else value), afterFraction)

/-- Infinity and what is no number, with or without a sign. -/
def readSpecial (text : List Char) : Option (Value × List Char) :=
  let negative := text.head? = some '-'
  let unsigned := if negative ∨ text.head? = some '+' then text.drop 1 else text
  match unsigned with
  | 'i' :: 'n' :: 'f' :: rest => some (.float (.infinite negative), rest)
  | 'n' :: 'a' :: 'n' :: rest => some (.float .nan, rest)
  | _ => none

def readNumber (text : List Char) : Except DocumentFault (Value × List Char) :=
  let based :=
    match text with
    | '0' :: 'x' :: rest => readBased 16 Text.isHexDigit rest
    | '0' :: 'b' :: rest => readBased 2 Text.isBinaryDigit rest
    | '0' :: 'o' :: rest => readBased 8 Text.isOctalDigit rest
    | _ => none
  match based.orElse fun _ => readSpecial text with
  | some result => .ok result
  | none => readDecimal text

/-- A date, a time or a number. -/
def readScalar (text : List Char) : Except DocumentFault (Value × List Char) :=
  match readDate text with
  | some (date, rest) =>
    if date.valid then
      let (moment, rest) := readMoment date rest
      .ok (.moment moment, rest)
    else .error .malformed
  | none =>
    match readTime text with
    | some (time, rest) => .ok (.moment (.time time), rest)
    | none => readNumber text

end SchemaGrammar.Toml
