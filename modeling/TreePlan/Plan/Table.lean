import TreePlan.Text.Width

/-!
# Tables

A table in a frame of lines, with its header set off by a double line. A cell may hold several
lines; every column is as wide as its widest line.
-/

namespace TreePlan

/-- A header and rows of cells; every row has as many cells as the header. -/
structure Table where
  /-- The cells of the header. -/
  header : List String
  /-- The cells of the rows. -/
  rows : List (List String)

namespace Table

/-- The lines of a text: one more than it has line ends. -/
def linesOf : List Char → List (List Char)
  | [] => [[]]
  | c :: rest =>
    if c = '\n' then [] :: linesOf rest
    else match linesOf rest with
      | [] => [[c]]
      | line :: more => (c :: line) :: more

/-- The lines of a cell. -/
def cellLines (cell : String) : List (List Char) := linesOf cell.toList

/-- The columns that a cell takes. -/
def cellWidth (cell : String) : Nat := ((cellLines cell).map Width.columns).foldl max 0

/-- The columns that the cells above each other take. -/
def widths (t : Table) : List Nat :=
  t.rows.foldl (fun ws row => List.zipWith (fun w cell => max w (cellWidth cell)) ws row)
    (t.header.map cellWidth)

/-- A line filled up to a width. -/
def fillUp (line : List Char) (width : Nat) : List Char :=
  line ++ List.replicate (width - Width.columns line) ' '

/-- One line of a row, cell by cell. -/
def rowLine (ws : List Nat) (row : List String) (index : Nat) : List Char :=
  let cells := List.zipWith
    (fun w cell => ' ' :: fillUp (((cellLines cell)[index]?).getD []) w ++ [' ']) ws row
  '│' :: [' '].intercalate cells ++ ['│', '\n']

/-- The lines of a row. -/
def rowText (ws : List Nat) (row : List String) : List Char :=
  let height := (row.map fun cell => (cellLines cell).length).foldl max 0
  (List.range height).flatMap (rowLine ws row)

/-- A line across the table. -/
def rule (ws : List Nat) (left line right : Char) : List Char :=
  left :: List.replicate (ws.foldl (fun n w => n + w + 3) 0 - 1) line ++ [right]

/-- The table as text, without a line end after its last line. -/
def render (t : Table) : String :=
  let ws := t.widths
  String.ofList <|
    rule ws '┌' '─' '┐' ++ ['\n'] ++ rowText ws t.header ++ rule ws '╞' '═' '╡' ++ ['\n'] ++
      t.rows.flatMap (rowText ws) ++ rule ws '└' '─' '┘'

end Table

end TreePlan
