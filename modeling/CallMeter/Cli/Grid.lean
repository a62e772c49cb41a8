import CallMeter.Text.Split
import CallMeter.Text.Width

/-!
# Grids

A table drawn with box characters. A column is as wide as the widest line of its cells and one
blank on each side; a cell may have several lines, and all cells of a row take as many.

## Main definitions

* `Grid.render`: the drawing of a header and rows
-/

namespace CallMeter.Cli.Grid

/-- The lines of a cell. -/
def cellLines (cell : String) : List String :=
  (Text.splitOn '\n' cell.toList).map String.ofList

/-- The width of a cell. -/
def cellWidth (cell : String) : Nat :=
  ((cellLines cell).map Text.width).foldl max 0

/-- The widths of the columns of rows of `columns` cells. -/
def columnWidths (columns : Nat) (rows : List (List String)) : List Nat :=
  (List.range columns).map fun i =>
    (rows.map fun row => cellWidth (row[i]?.getD "")).foldl max 0

/-- A line across the grid. -/
def rule (left fill cross right : Char) (widths : List Nat) : String :=
  left.toString ++
    cross.toString.intercalate (widths.map fun w => String.ofList (List.replicate (w + 2) fill)) ++
    right.toString

/-- A line of a cell, filled up with blanks. -/
def padCell (w : Nat) (line : String) : String :=
  " " ++ line ++ String.ofList (List.replicate (w - Text.width line) ' ') ++ " "

/-- The lines of a row. -/
def rowLines (widths : List Nat) (row : List String) : List String :=
  let cells := row.map cellLines
  let height := (cells.map List.length).foldl max 0
  (List.range height).map fun i =>
    let line := List.zipWith (fun w cell => padCell w (cell[i]?.getD "")) widths cells
    "│" ++ "┆".intercalate line ++ "│"

/-- **The drawing** of a header and rows. -/
def render (header : List String) (rows : List (List String)) : String :=
  let widths := columnWidths header.length (header :: rows)
  let between := rule '├' '╌' '┼' '┤' widths
  let body := (rows.map (rowLines widths)).intersperse [between]
  "\n".intercalate (
    rule '┌' '─' '┬' '┐' widths :: rowLines widths header ++
      rule '╞' '═' '╪' '╡' widths :: body.flatten ++ [rule '└' '─' '┴' '┘' widths])

end CallMeter.Cli.Grid
