import SchemaGrammar.DocumentFault
import SchemaGrammar.Json.Quoted
import SchemaGrammar.Text.Numeral
import SchemaGrammar.Value
set_option autoImplicit false

/-!
Reading a JSON text. A numeral with a fraction or an exponent is a floating-point number and any
other one an integer; besides the standard's values `NaN`, `Infinity` and `-Infinity` are read as
numbers. A table holds its entries as they are written, several of them perhaps under one key. A
`Dialect` sets the limits. `read` is the reader; the functions before it take a bound on their
depth, which the length of the text supplies, and the number of levels that may still be nested.
-/

namespace SchemaGrammar.Json

/-- What a JSON text may hold. -/
structure Dialect where
  /-- How many lists and tables may lie in each other; those without content do not count. -/
  nesting : Nat
  /-- Whether a string may name half of a surrogate pair. -/
  halves : Bool
  /-- Whether the limit on the length of integers holds for the part of any number before its point
  and its exponent, a sign included. -/
  strictNumerals : Bool

/-- The dialect of documents. -/
def Dialect.document : Dialect := ⟨987, true, false⟩

/-- The dialect of grammars, which is stricter. -/
def Dialect.grammar : Dialect := ⟨200, false, true⟩

def isBlank (c : Char) : Bool := c == ' ' || c == '\t' || c == '\n' || c == '\r'

def skipBlanks (text : List Char) : List Char := text.dropWhile isBlank

/-- The digits after a point, if there are any. -/
def readFraction (text : List Char) : List Char × List Char :=
  match text with
  | '.' :: rest =>
    let digits := rest.takeWhile Text.isDigit
    if digits.isEmpty then ([], text) else (digits, rest.dropWhile Text.isDigit)
  | _ => ([], text)

/-- The exponent of a numeral, if there is one. -/
def readExponent (text : List Char) : Option Int × List Char :=
  let withSign (negative : Bool) (rest : List Char) : Option Int × List Char :=
    let digits := rest.takeWhile Text.isDigit
    if digits.isEmpty then (none, text)
    else
      let value : Int := Text.numeral 10 digits
      (some (if negative then -value else value), rest.dropWhile Text.isDigit)
  match text with
  | e :: sign :: rest =>
    if e = 'e' ∨ e = 'E' then
      if sign = '-' then withSign true rest
      else if sign = '+' then withSign false rest
      else withSign false (sign :: rest)
    else (none, text)
  | _ => (none, text)

/-- The digits before a point: a zero alone, or a run that does not start with one. -/
def readWhole (text : List Char) : Option (List Char × List Char) :=
  match text with
  | '0' :: rest => some (['0'], rest)
  | c :: _ =>
    if Text.isDigit c then
      some (text.takeWhile Text.isDigit, text.dropWhile Text.isDigit)
    else none
  | [] => none

/-- Whether a number is too long to be read, given its sign and the digits before its point. -/
def Dialect.refuses (dialect : Dialect) (negative isInteger : Bool) (whole : List Char) : Bool :=
  if dialect.strictNumerals then Text.longestNumeral < (if negative then 1 else 0) + whole.length
  else isInteger && Text.longestNumeral < whole.length

/-- A number behind its sign. -/
def readMagnitude (dialect : Dialect) (negative : Bool) (text : List Char) :
    Except DocumentFault (Value × List Char) := do
  let (whole, afterWhole) ← DocumentFault.expect (readWhole text)
  let (fraction, afterFraction) := readFraction afterWhole
  let (exponent, rest) := readExponent afterFraction
  let isInteger := fraction.isEmpty && exponent.isNone
  if dialect.refuses negative isInteger whole then .error .longInteger
  else if isInteger then
    let value : Int := Text.numeral 10 whole
    pure (.integer (if negative then -value else value), rest)
  else
    pure (.float (.ofDecimal negative (Text.numeral 10 (whole ++ fraction))
      (exponent.getD 0 - fraction.length)), rest)

/-- A number, a truth value or `null`. -/
def readScalar (dialect : Dialect) (text : List Char) :
    Except DocumentFault (Value × List Char) :=
  match text with
  | 'n' :: 'u' :: 'l' :: 'l' :: rest => .ok (.null, rest)
  | 't' :: 'r' :: 'u' :: 'e' :: rest => .ok (.bool true, rest)
  | 'f' :: 'a' :: 'l' :: 's' :: 'e' :: rest => .ok (.bool false, rest)
  | 'N' :: 'a' :: 'N' :: rest => .ok (.float .nan, rest)
  | 'I' :: 'n' :: 'f' :: 'i' :: 'n' :: 'i' :: 't' :: 'y' :: rest =>
    .ok (.float (.infinite false), rest)
  | '-' :: 'I' :: 'n' :: 'f' :: 'i' :: 'n' :: 'i' :: 't' :: 'y' :: rest =>
    .ok (.float (.infinite true), rest)
  | '-' :: rest => readMagnitude dialect true rest
  | _ => readMagnitude dialect false text

mutual

/-- The value at the start of the text, and what follows it. -/
def readValue (dialect : Dialect) :
    Nat → Nat → List Char → Except DocumentFault (Value × List Char)
  | 0, _, _ => .error .malformed
  | _ + 1, _, '"' :: rest =>
    (DocumentFault.expect (readString dialect.halves rest)).map fun (text, rest) =>
      (.string text, rest)
  | bound + 1, room, '[' :: rest =>
    match skipBlanks rest with
    | ']' :: rest => .ok (.list [], rest)
    | rest =>
      match room with
      | 0 => .error .tooDeep
      | room + 1 => (readItems dialect bound room rest).map fun (items, rest) => (.list items, rest)
  | bound + 1, room, '\x7b' :: rest =>
    match skipBlanks rest with
    | '\x7d' :: rest => .ok (.table [], rest)
    | rest =>
      match room with
      | 0 => .error .tooDeep
      | room + 1 =>
        (readEntries dialect bound room rest).map fun (entries, rest) => (.table entries, rest)
  | _ + 1, _, text => readScalar dialect text

/-- The items of a list up to its closing bracket. -/
def readItems (dialect : Dialect) :
    Nat → Nat → List Char → Except DocumentFault (List Value × List Char)
  | 0, _, _ => .error .malformed
  | bound + 1, room, text => do
    let (item, rest) ← readValue dialect bound room text
    match skipBlanks rest with
    | ',' :: rest =>
      let (items, rest) ← readItems dialect bound room (skipBlanks rest)
      pure (item :: items, rest)
    | ']' :: rest => pure ([item], rest)
    | _ => .error .malformed

/-- The entries of a table up to its closing brace, in the order of the text. -/
def readEntries (dialect : Dialect) :
    Nat → Nat → List Char → Except DocumentFault (List (String × Value) × List Char)
  | 0, _, _ => .error .malformed
  | bound + 1, room, '"' :: text => do
    let (key, rest) ← DocumentFault.expect (readString dialect.halves text)
    match skipBlanks rest with
    | ':' :: rest =>
      let (value, rest) ← readValue dialect bound room (skipBlanks rest)
      match skipBlanks rest with
      | ',' :: rest =>
        let (entries, rest) ← readEntries dialect bound room (skipBlanks rest)
        pure ((key, value) :: entries, rest)
      | '\x7d' :: rest => pure ([(key, value)], rest)
      | _ => .error .malformed
    | _ => .error .malformed
  | _ + 1, _, _ => .error .malformed

end

/-- The value of a whole JSON text. -/
def read (dialect : Dialect) (text : String) : Except DocumentFault Value := do
  let characters := text.toList
  let (value, rest) ←
    readValue dialect (2 * characters.length + 2) dialect.nesting (skipBlanks characters)
  if (skipBlanks rest).isEmpty then pure value else .error .malformed

end SchemaGrammar.Json
