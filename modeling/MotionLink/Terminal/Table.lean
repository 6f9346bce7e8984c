import MotionLink.Text.Width

/-!
# Tables

A table has a header and rows. Every column is as wide as its widest line, with a blank on either
side.

## Main definitions

* `Table` — the texts of a table
* `Table.write` — the table in box characters
-/

namespace MotionLink

/-- The texts of a table. -/
structure Table where
  header : List String
  rows : List (List String)

namespace Table

/-- The lines of a cell. -/
def cellLines (text : String) : List (List Char) := text.toList.splitOn '\n'

/-- The widths of the cells of a row. -/
def rowWidths (row : List String) : List Nat :=
  row.map fun text => ((cellLines text).map Text.width).foldl max 0

/-- The greater number at each place; what only one list has is kept. -/
def maxima : List Nat → List Nat → List Nat
  | [], ns => ns
  | ms, [] => ms
  | m :: ms, n :: ns => max m n :: maxima ms ns

/-- The widths of the columns. -/
def widths (table : Table) : List Nat :=
  (table.header :: table.rows).foldl (fun ws row => maxima ws (rowWidths row)) []

/-- A line between two rows: how it begins, its stroke, what stands between columns, how it
ends. -/
def rule (left stroke between right : String) (widths : List Nat) : String :=
  let strokes := widths.map fun w => String.join (List.replicate (w + 2) stroke)
  left ++ between.intercalate strokes ++ right

/-- A line of a cell, filled up to the width of its column. -/
def padded (width : Nat) (line : List Char) : String :=
  String.ofList (' ' :: line ++ List.replicate (width - Text.width line) ' ' ++ [' '])

/-- One line through all cells of a row. -/
def rowLine (widths : List Nat) (cells : List (List (List Char))) (index : Nat) : String :=
  let parts := List.zipWith (fun w lines => padded w ((lines[index]?).getD [])) widths cells
  "│" ++ "┆".intercalate parts ++ "│"

/-- The lines of a row: as many as its highest cell has. -/
def rowLines (widths : List Nat) (row : List String) : List String :=
  let cells := row.map cellLines
  let height := (cells.map List.length).foldl max 0
  (List.range height).map (rowLine widths cells)

/-- The lines of the rows, with a rule between two of them. -/
def bodyLines (widths : List Nat) : List (List String) → List String
  | [] => []
  | [row] => rowLines widths row
  | row :: rest => rowLines widths row ++ rule "├" "╌" "┼" "┤" widths :: bodyLines widths rest

/-- The table in box characters. -/
def write (table : Table) : String :=
  let ws := table.widths
  let lines :=
    [rule "┌" "─" "┬" "┐" ws] ++ rowLines ws table.header ++ [rule "╞" "═" "╪" "╡" ws] ++
      bodyLines ws table.rows ++ [rule "└" "─" "┴" "┘" ws]
  "\n".intercalate lines

end Table

end MotionLink
