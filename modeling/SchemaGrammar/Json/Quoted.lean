import SchemaGrammar.Text.Quoted
import SchemaGrammar.Text.Surrogate
set_option autoImplicit false

/-!
Strings of a JSON text. Writing escapes the quote, the backslash and the control characters below
the space and leaves every other character as it is. Reading also knows the other escapes: a
character named by its UTF-16 code unit, or by a pair of surrogate units. A surrogate without its
partner names no character; where such halves are allowed a stand-in is kept for it, and elsewhere
it makes the string unreadable.
-/

namespace SchemaGrammar.Json

/-- One character of a written string. -/
def escape (c : Char) : List Char :=
  if c = '"' then ['\\', '"']
  else if c = '\\' then ['\\', '\\']
  else if c = '\n' then ['\\', 'n']
  else if c = '\r' then ['\\', 'r']
  else if c = '\t' then ['\\', 't']
  else if c = '\x08' then ['\\', 'b']
  else if c = '\x0c' then ['\\', 'f']
  else if c.toNat < 0x20 then '\\' :: 'u' :: Text.hexDigits 4 c.toNat
  else [c]

def writeString (text : String) : List Char :=
  '"' :: text.toList.flatMap escape ++ ['"']

/-- A part of a string: a character, or a code unit written by its number. -/
inductive Piece where
  | char (c : Char)
  | unit (code : Nat)

/-- The character of an escape with one letter. -/
def shortEscape? : Char → Option Char
  | '"' => some '"'
  | '\\' => some '\\'
  | '/' => some '/'
  | 'b' => some '\x08'
  | 'f' => some '\x0c'
  | 'n' => some '\n'
  | 'r' => some '\r'
  | 't' => some '\t'
  | _ => none

/-- The number written with four hexadecimal digits. -/
def hexUnit? (a b c d : Char) : Option Nat := do
  let a ← Text.hexValue? a
  let b ← Text.hexValue? b
  let c ← Text.hexValue? c
  let d ← Text.hexValue? d
  some (((a * 16 + b) * 16 + c) * 16 + d)

/-- The pieces up to the closing quote, and what follows it. -/
def readPieces : List Char → Option (List Piece × List Char)
  | [] => none
  | '"' :: rest => some ([], rest)
  | '\\' :: 'u' :: a :: b :: c :: d :: rest => do
    let code ← hexUnit? a b c d
    let (pieces, rest) ← readPieces rest
    some (.unit code :: pieces, rest)
  | '\\' :: letter :: rest => do
    let c ← shortEscape? letter
    let (pieces, rest) ← readPieces rest
    some (.char c :: pieces, rest)
  | c :: rest =>
    if c.toNat < 0x20 ∨ c = '\\' then none
    else do
      let (pieces, rest) ← readPieces rest
      some (.char c :: pieces, rest)

def isHighSurrogate (code : Nat) : Bool := 0xD800 ≤ code && code ≤ 0xDBFF

def isLowSurrogate (code : Nat) : Bool := 0xDC00 ≤ code && code ≤ 0xDFFF

/-- The character that a code unit names without a partner. -/
def unitChar? (halves : Bool) (code : Nat) : Option Char :=
  if Text.isSurrogate code then if halves then some (Text.standIn code) else none
  else some (Char.ofNat code)

/-- The characters that the pieces name; `halves` tells whether surrogates may stand alone. -/
def joinPieces (halves : Bool) : List Piece → Option (List Char)
  | [] => some []
  | .char c :: rest => (joinPieces halves rest).map (c :: ·)
  | .unit high :: .unit low :: rest =>
    if isHighSurrogate high && isLowSurrogate low then
      (joinPieces halves rest).map
        (Char.ofNat (0x10000 + (high - 0xD800) * 0x400 + (low - 0xDC00)) :: ·)
    else do
      let c ← unitChar? halves high
      (joinPieces halves (.unit low :: rest)).map (c :: ·)
  | .unit code :: rest => do
    let c ← unitChar? halves code
    (joinPieces halves rest).map (c :: ·)

/-- The string whose opening quote has been read, and what follows it. -/
def readString (halves : Bool) (text : List Char) : Option (String × List Char) := do
  let (pieces, rest) ← readPieces text
  let characters ← joinPieces halves pieces
  some (String.ofList characters, rest)

end SchemaGrammar.Json
