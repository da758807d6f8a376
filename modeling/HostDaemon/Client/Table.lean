import HostDaemon.Text.Basic
import HostDaemon.Text.Width

/-! # Tables

A table in a frame of box characters: a header, a double rule below it, and the rows. Every column
is as wide as its widest cell, with one space on either side. A cell may have several lines. -/

namespace HostDaemon

/-- A table of text. -/
structure Table where
  /-- The cells of the header. -/
  header : List String
  /-- The cells of each row, one for each column. -/
  rows : List (List String)

namespace Table

/-- The lines of a cell. -/
def cellLines (cell : String) : List String :=
  (Text.pieces (· == '\n') cell.toList).map String.ofList

/-- The width of a cell: that of its widest line. -/
def cellWidth (cell : String) : Nat :=
  (cellLines cell).foldl (fun width line => max width (Text.width line)) 0

/-- The width of each column. -/
def widths (t : Table) : List Nat :=
  t.rows.foldl (fun widths row => List.zipWith (fun w cell => max w (cellWidth cell)) widths row)
    (t.header.map cellWidth)

/-- A horizontal line through all columns. -/
def rule (widths : List Nat) (left fill cross right : String) : String :=
  left ++ Text.joinWith cross (widths.map fun w => String.join (List.replicate (w + 2) fill)) ++
    right

/-- A line of a cell with spaces around it. -/
def padded (width : Nat) (line : String) : String :=
  " " ++ line ++ String.ofList (List.replicate (width - Text.width line) ' ') ++ " "

/-- The lines of a row: as many as its tallest cell has. -/
def rowLines (widths : List Nat) (cells : List String) : List String :=
  let cells := cells.map cellLines
  let height := cells.foldl (fun height lines => max height lines.length) 0
  (List.range height).map fun i =>
    "│" ++
      Text.joinWith "┆" (List.zipWith (fun w lines => padded w (lines.getD i "")) widths cells) ++
      "│"

/-- All lines of the table. -/
def lines (t : Table) : List String :=
  let widths := t.widths
  [rule widths "┌" "─" "┬" "┐"] ++ rowLines widths t.header ++ [rule widths "╞" "═" "╪" "╡"] ++
    t.rows.flatMap (rowLines widths) ++ [rule widths "└" "─" "┴" "┘"]

/-- The text of the table. -/
def render (t : Table) : String := Text.joinWith "\n" t.lines

end Table

end HostDaemon
