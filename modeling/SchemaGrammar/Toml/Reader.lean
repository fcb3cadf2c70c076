import SchemaGrammar.Toml.Number
import SchemaGrammar.Toml.Text
set_option autoImplicit false

/-!
Reading a TOML document, version 1.0. A document is a list of statements: a key with its value, the
header of a table, or the header of one more item of a list of tables. What has been declared once
may not be declared again, and lists and tables written in one line are closed for later statements;
`Document` keeps the keys for which this holds. `read` is the reader; the functions before it take
a bound on their depth, which the length of the text supplies, and the room that is left for lists
and tables inside each other.
-/

namespace SchemaGrammar.Toml

/-- Changes the table behind a path of keys. Tables on the way that are missing are created; a list
of tables on the way stands for its last item, if that is wanted. -/
def updateTable (throughLists : Bool) (change : Table → Option Table) :
    Key → Table → Option Table
  | [], table => change table
  | key :: rest, table =>
    match table.lookup key with
    | none => do
      let inner ← updateTable throughLists change rest []
      some (table ++ [(key, .table inner)])
    | some (.table inner) => do
      let inner ← updateTable throughLists change rest inner
      some (Table.set key (.table inner) table)
    | some (.list items) =>
      match throughLists, items.getLast? with
      | true, some (.table inner) => do
        let inner ← updateTable throughLists change rest inner
        some (Table.set key (.list (items.dropLast ++ [.table inner])) table)
      | _, _ => none
    | some _ => none

/-- Puts a value under a key that has none yet. -/
def insertNew (key : String) (value : Value) (table : Table) : Option Table :=
  match table.lookup key with
  | some _ => none
  | none => some (table ++ [(key, value)])

/-- Adds an empty table to the list of tables under a key. -/
def appendTable (key : String) (table : Table) : Option Table :=
  match table.lookup key with
  | none => some (table ++ [(key, .list [.table []])])
  | some (.list items) => some (Table.set key (.list (items ++ [.table []])) table)
  | some _ => none

/-- Whether a key lies in one of the closed values. -/
def isClosed (closed : List Key) (key : Key) : Bool :=
  !key.isEmpty && closed.any fun other => other.isPrefixOf key

/-- Lists and tables are closed once they are written. -/
def closesItsKey : Value → Bool
  | .list _ | .table _ => true
  | _ => false

/-- Puts a value under a key of a table that is written in one line. -/
def insertInline (key : Key) (value : Value) (closed : List Key) (table : Table) :
    Option Table :=
  if isClosed closed key then none
  else updateTable false (insertNew (key.getLast?.getD "") value) key.dropLast table

/-- The room for the lists and the tables that are written inside a value. -/
def nesting : Nat := 985

/-- The room that a list takes up. -/
def listRoom : Nat := 2

/-- The room that a table written in one line takes up. -/
def tableRoom : Nat := 3

mutual

def readValue : Nat → Nat → List Char → Except DocumentFault (Value × List Char)
  | 0, _, _ => .error .malformed
  | bound + 1, room, text =>
    match text with
    | '"' :: _ | '\'' :: _ =>
      (DocumentFault.expect (readString text)).map fun (content, rest) => (.string content, rest)
    | 't' :: 'r' :: 'u' :: 'e' :: rest => .ok (.bool true, rest)
    | 'f' :: 'a' :: 'l' :: 's' :: 'e' :: rest => .ok (.bool false, rest)
    | '[' :: rest => do
      if room < listRoom then .error .tooDeep
      let rest ← DocumentFault.expect (skipLines (text.length + 1) rest)
      (readItems bound (room - listRoom) rest).map fun (items, rest) => (.list items, rest)
    | '\x7b' :: rest => do
      if room < tableRoom then .error .tooDeep
      match skipSpaces rest with
      | '\x7d' :: rest => .ok (.table [], rest)
      | rest =>
        (readInline bound (room - tableRoom) [] [] rest).map fun (table, rest) =>
          (.table table, rest)
    | _ => readScalar text

/-- The items of a list up to its closing bracket; a comma may stand behind the last one. -/
def readItems : Nat → Nat → List Char → Except DocumentFault (List Value × List Char)
  | 0, _, _ => .error .malformed
  | bound + 1, room, text =>
    match text with
    | ']' :: rest => .ok ([], rest)
    | _ => do
      let (item, rest) ← readValue bound room text
      match ← DocumentFault.expect (skipLines (text.length + 1) rest) with
      | ']' :: rest => pure ([item], rest)
      | ',' :: rest =>
        let rest ← DocumentFault.expect (skipLines (text.length + 1) rest)
        let (items, rest) ← readItems bound room rest
        pure (item :: items, rest)
      | _ => .error .malformed

/-- The entries of a table written in one line, up to its closing brace. -/
def readInline :
    Nat → Nat → List Key → Table → List Char → Except DocumentFault (Table × List Char)
  | 0, _, _, _, _ => .error .malformed
  | bound + 1, room, closed, table, text => do
    let (key, rest) ← DocumentFault.expect (readKey text)
    match rest with
    | '=' :: rest =>
      let (value, rest) ← readValue bound room (skipSpaces rest)
      let table ← DocumentFault.expect (insertInline key value closed table)
      match skipSpaces rest with
      | '\x7d' :: rest => pure (table, rest)
      | ',' :: rest =>
        readInline bound room (if closesItsKey value then key :: closed else closed) table
          (skipSpaces rest)
      | _ => .error .malformed
    | _ => .error .malformed

end

/-- What the statements read so far amount to. -/
structure Document where
  content : Table
  /-- The table that the statements are now about. -/
  header : Key
  /-- The keys that no header of a table may name again. -/
  declared : List Key
  /-- The tables opened by keys of several parts since the last header; the next header declares
  them. -/
  opened : List Key
  /-- The keys whose values are complete. -/
  closed : List Key

namespace Document

def empty : Document := ⟨[], [], [], [], []⟩

/-- The tables on the way to a value are declared as soon as the next header comes. -/
def settle (document : Document) : Document :=
  { document with declared := document.opened ++ document.declared, opened := [] }

/-- A header `[key]`. -/
def openTable (key : Key) (document : Document) : Option Document := do
  let document := document.settle
  if document.declared.contains key || isClosed document.closed key then none
  else
    let content ← updateTable true some key document.content
    some { document with content, header := key, declared := key :: document.declared }

/-- A header `[[key]]`, which frees everything below the key for the new item. -/
def openItem (key : Key) (document : Document) : Option Document := do
  let document := document.settle
  if isClosed document.closed key then none
  else
    let content ← updateTable true (appendTable (key.getLast?.getD "")) key.dropLast
      document.content
    let outside := (!key.isPrefixOf ·)
    some
      { document with
        content
        header := key
        declared := key :: document.declared.filter outside
        closed := document.closed.filter outside }

/-- The tables between the current one and the value of a key. -/
def between (document : Document) (key : Key) : List Key :=
  ((List.range key.length).filter (0 < ·)).map fun count => document.header ++ key.take count

/-- A key with its value. -/
def insert (key : Key) (value : Value) (document : Document) : Option Document :=
  let path := document.header ++ key
  let between := document.between key
  if between.any document.declared.contains || isClosed document.closed path.dropLast then none
  else do
    let content ← updateTable true (insertNew (path.getLast?.getD "") value) path.dropLast
      document.content
    some
      { document with
        content
        opened := between ++ document.opened
        closed := if closesItsKey value then path :: document.closed else document.closed }

end Document

/-- The text behind a statement: blanks, perhaps a comment, and the end of the line. -/
def endLine (text : List Char) : Option (List Char) := do
  match ← skipComment (skipSpaces text) with
  | [] => some []
  | '\n' :: rest => some rest
  | _ => none

/-- One statement, and what follows it on its line. -/
def readStatement (document : Document) (text : List Char) :
    Except DocumentFault (Document × List Char) :=
  match text with
  | '[' :: '[' :: rest => do
    let (key, rest) ← DocumentFault.expect (readKey (skipSpaces rest))
    match rest with
    | ']' :: ']' :: rest => pure (← DocumentFault.expect (document.openItem key), rest)
    | _ => .error .malformed
  | '[' :: rest => do
    let (key, rest) ← DocumentFault.expect (readKey (skipSpaces rest))
    match rest with
    | ']' :: rest => pure (← DocumentFault.expect (document.openTable key), rest)
    | _ => .error .malformed
  | _ => do
    let (key, rest) ← DocumentFault.expect (readKey text)
    match rest with
    | '=' :: rest =>
      let (value, rest) ← readValue (2 * text.length + 2) nesting (skipSpaces rest)
      pure (← DocumentFault.expect (document.insert key value), rest)
    | _ => .error .malformed

def readStatements : Nat → Document → List Char → Except DocumentFault Document
  | 0, _, _ => .error .malformed
  | bound + 1, document, text =>
    match skipSpaces text with
    | [] => .ok document
    | '\n' :: rest => readStatements bound document rest
    | '#' :: rest => do
      let rest ← DocumentFault.expect (endLine ('#' :: rest))
      readStatements bound document rest
    | line => do
      let (document, rest) ← readStatement document line
      let rest ← DocumentFault.expect (endLine rest)
      readStatements bound document rest

/-- The table that a document describes. -/
def read (text : String) : Except DocumentFault Table :=
  let characters := text.toList
  (readStatements (characters.length + 1) .empty characters).map Document.content

end SchemaGrammar.Toml
