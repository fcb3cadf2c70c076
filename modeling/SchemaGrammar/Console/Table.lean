set_option autoImplicit false

/-!
Tables on the console: a title, a heading row and the rows, in a box. The first column is set to
the left and the others to the right; every column is as wide as its widest cell. Only where the box
would be wider than the console the first column is made narrower, and its longer cells are cut.
-/

namespace SchemaGrammar.Console

structure Table where
  title : String
  headings : List String
  rows : List (List String)

namespace Table

def spaces (count : Nat) : String := String.ofList (List.replicate count ' ')

/-- The number of columns of the console. -/
def consoleWidth : Nat := 80

/-- The width of the widest cell in each column. -/
def contentWidths (table : Table) : List Nat :=
  table.rows.foldl (fun widths row => List.zipWith max widths (row.map String.length))
    (table.headings.map String.length)

/-- The width of each column. Beside its cells a column takes up two spaces and a bar, and one more
bar closes the box. -/
def widths (table : Table) : List Nat :=
  match table.contentWidths with
  | [] => []
  | first :: others =>
    let taken := others.foldl (fun taken width => taken + width + 3) 4
    min first (consoleWidth - taken) :: others

/-- A cell that fits into a width, cut if it is longer. -/
def fitted (width : Nat) (cell : String) : String :=
  if cell.length ≤ width then cell else String.ofList (cell.toList.take (width - 1)) ++ "…"

/-- The cells of a row, each filled up to its width. -/
def cells : List Nat → List String → List String
  | width :: widths, cell :: rest =>
    let cell := fitted width cell
    (cell ++ spaces (width - cell.length)) ::
      List.zipWith (fun width cell => spaces (width - cell.length) ++ cell) widths rest
  | _, _ => []

def rowText (bar : String) (widths : List Nat) (row : List String) : String :=
  bar ++ " " ++ s!" {bar} ".intercalate (cells widths row) ++ " " ++ bar ++ "\n"

/-- A horizontal line of the box. -/
def lineText (left fill cross right : String) (widths : List Nat) : String :=
  let segments := widths.map fun width => "".intercalate (List.replicate (width + 2) fill)
  left ++ cross.intercalate segments ++ right ++ "\n"

def text (table : Table) : String :=
  let widths := table.widths
  table.title ++ "\n" ++ lineText "┏" "━" "┳" "┓" widths ++ rowText "┃" widths table.headings ++
    lineText "┡" "━" "╇" "┩" widths ++ "".intercalate (table.rows.map (rowText "│" widths)) ++
    lineText "└" "─" "┴" "┘" widths

end Table

end SchemaGrammar.Console
