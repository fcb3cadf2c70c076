import SchemaGrammar.Text.Numeral
set_option autoImplicit false

/-!
Strings and keys of a TOML document. A basic string has escapes, a literal one has none; both have
a form with three quotes that may span lines. Control characters other than the tab are refused
everywhere, the line feed excepted where lines may be spanned. The readers of basic strings take a
bound on the number of their characters.
-/

namespace SchemaGrammar.Toml

def isSpace (c : Char) : Bool := c == ' ' || c == '\t'

def isSpaceOrLine (c : Char) : Bool := isSpace c || c == '\n'

def skipSpaces (text : List Char) : List Char := text.dropWhile isSpace

/-- A control character that no string and no comment may hold. -/
def isIllegal (c : Char) : Bool := (c.toNat < 32 && c != '\t') || c.toNat == 127

/-- Reads exactly so many hexadecimal digits. -/
def readHex : Nat → Nat → List Char → Option (Nat × List Char)
  | 0, value, text => some (value, text)
  | _ + 1, _, [] => none
  | count + 1, value, c :: rest => do
    let digit ← Text.hexValue? c
    readHex count (value * 16 + digit) rest

/-- The character with a code point, surrogates being none. -/
def scalar? (code : Nat) : Option Char :=
  if code < 0xD800 ∨ (0xDFFF < code ∧ code < 0x110000) then some (Char.ofNat code) else none

/-- The character that an escape stands for; the backslash has been read. -/
def readEscape (text : List Char) : Option (Char × List Char) :=
  match text with
  | 'b' :: rest => some ('\x08', rest)
  | 't' :: rest => some ('\t', rest)
  | 'n' :: rest => some ('\n', rest)
  | 'f' :: rest => some ('\x0c', rest)
  | 'r' :: rest => some ('\r', rest)
  | '"' :: rest => some ('"', rest)
  | '\\' :: rest => some ('\\', rest)
  | 'u' :: rest => do
    let (code, rest) ← readHex 4 0 rest
    some (← scalar? code, rest)
  | 'U' :: rest => do
    let (code, rest) ← readHex 8 0 rest
    some (← scalar? code, rest)
  | _ => none

/-- A basic string on one line, behind its opening quote. -/
def readBasic : Nat → List Char → Option (List Char × List Char)
  | 0, _ => none
  | _ + 1, [] => none
  | bound + 1, c :: rest =>
    if c = '"' then some ([], rest)
    else if c = '\\' then do
      let (escaped, rest) ← readEscape rest
      (readBasic bound rest).map fun (text, rest) => (escaped :: text, rest)
    else if isIllegal c then none
    else (readBasic bound rest).map fun (text, rest) => (c :: text, rest)

/-- What follows a backslash at the end of a line: the line feed and all blanks after it are
dropped. -/
def skipLineEnd (text : List Char) : Option (List Char) :=
  match skipSpaces text with
  | '\n' :: rest => some (rest.dropWhile isSpaceOrLine)
  | _ => none

/-- Up to two quotes may stand before the closing ones. -/
def extraQuotes (quote : Char) (text : List Char) : List Char × List Char :=
  match text with
  | [] => ([], [])
  | a :: rest =>
    if a = quote then
      match rest with
      | [] => ([a], [])
      | b :: rest' => if b = quote then ([a, b], rest') else ([a], rest)
    else ([], text)

def startsWith (start text : List Char) : Bool := start.isPrefixOf text

/-- A basic string of several lines, behind its opening quotes. -/
def readBasicLines : Nat → List Char → Option (List Char × List Char)
  | 0, _ => none
  | _ + 1, [] => none
  | bound + 1, c :: rest =>
    if c = '"' ∧ startsWith ['"', '"'] rest then
      some (extraQuotes '"' (rest.drop 2))
    else if c = '\\' then
      if rest.head?.any isSpaceOrLine then do
        let rest ← skipLineEnd rest
        readBasicLines bound rest
      else do
        let (escaped, rest) ← readEscape rest
        (readBasicLines bound rest).map fun (text, rest) => (escaped :: text, rest)
    else if isIllegal c && c != '\n' then none
    else (readBasicLines bound rest).map fun (text, rest) => (c :: text, rest)

/-- A literal string on one line, behind its opening quote. -/
def readLiteral (text : List Char) : Option (List Char × List Char) :=
  let content := text.takeWhile (· != '\'')
  match text.drop content.length with
  | _ :: rest => if content.any isIllegal then none else some (content, rest)
  | [] => none

/-- A literal string of several lines, behind its opening quotes. -/
def readLiteralLines : List Char → Option (List Char × List Char)
  | [] => none
  | c :: rest =>
    if c = '\'' ∧ startsWith ['\'', '\''] rest then
      some (extraQuotes '\'' (rest.drop 2))
    else if isIllegal c && c != '\n' then none
    else (readLiteralLines rest).map fun (text, rest) => (c :: text, rest)

/-- A line feed directly behind the opening quotes does not belong to the string. -/
def dropFirstLine (text : List Char) : List Char :=
  match text with
  | '\n' :: rest => rest
  | _ => text

/-- A string in any of its four forms. -/
def readString (text : List Char) : Option (String × List Char) :=
  let read :=
    match text with
    | '"' :: rest =>
      if startsWith ['"', '"'] rest then
        readBasicLines (text.length + 1) (dropFirstLine (rest.drop 2))
      else readBasic (text.length + 1) rest
    | '\'' :: rest =>
      if startsWith ['\'', '\''] rest then readLiteralLines (dropFirstLine (rest.drop 2))
      else readLiteral rest
    | _ => none
  read.map fun (content, rest) => (String.ofList content, rest)

def isBareKeyChar (c : Char) : Bool :=
  ('a' ≤ c && c ≤ 'z') || ('A' ≤ c && c ≤ 'Z') || Text.isDigit c || c == '-' || c == '_'

/-- One part of a key: bare, or a string on one line. -/
def readKeyPart (text : List Char) : Option (String × List Char) :=
  match text with
  | [] => none
  | c :: rest =>
    if isBareKeyChar c then
      some (String.ofList (text.takeWhile isBareKeyChar), text.dropWhile isBareKeyChar)
    else
      (if c = '"' then readBasic (text.length + 1) rest
        else if c = '\'' then readLiteral rest
        else none).map fun (content, rest) => (String.ofList content, rest)

/-- The path of names that leads to a value. -/
abbrev Key := List String

/-- The parts of a key, joined by points, and what follows the blanks behind it. -/
def readKeyParts : Nat → List Char → Option (Key × List Char)
  | 0, _ => none
  | bound + 1, text => do
    let (part, rest) ← readKeyPart text
    match skipSpaces rest with
    | '.' :: rest =>
      (readKeyParts bound (skipSpaces rest)).map fun (parts, rest) => (part :: parts, rest)
    | rest => some ([part], rest)

def readKey (text : List Char) : Option (Key × List Char) := readKeyParts (text.length + 1) text

/-- What follows a comment, if there is one. -/
def skipComment (text : List Char) : Option (List Char) :=
  match text with
  | '#' :: rest =>
    let comment := rest.takeWhile (· != '\n')
    if comment.any isIllegal then none else some (rest.drop comment.length)
  | _ => some text

/-- What follows any number of blanks, lines and comments. -/
def skipLines : Nat → List Char → Option (List Char)
  | 0, text => some text
  | bound + 1, text =>
    let rest := text.dropWhile isSpaceOrLine
    match rest with
    | '#' :: _ => do
      let rest ← skipComment rest
      skipLines bound rest
    | _ => some rest

end SchemaGrammar.Toml
