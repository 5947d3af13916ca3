import CurvePnl.Text.Width

/-! # Tables of text

Results are printed as a table, or in a format for machines. A table is drawn with lines around it,
between its columns and below its header. A column is as wide as its widest cell, with a blank on
both sides. A cell of several lines makes its row that high; its lines keep their left edge
together.
-/

namespace CurvePnl

/-- How results are printed. -/
inductive OutputFormat where
  | table
  | json
  | csv
  deriving Repr, DecidableEq, Inhabited

namespace OutputFormat

/-- The format with exactly this name. -/
def ofText? : String → Option OutputFormat
  | "table" => some table
  | "json" => some json
  | "csv" => some csv
  | _ => none

end OutputFormat

/-- The side of a column that its cells stand at. -/
inductive Alignment where
  | left
  | right
  deriving Repr, DecidableEq

/-- A column with its header and its cells. -/
structure TextColumn where
  alignment : Alignment
  header : String
  cells : List String
  deriving Repr, DecidableEq

namespace TextTable

def blanks (n : Nat) : String := String.ofList (List.replicate n ' ')

/-- The lines of a cell. -/
def linesOf (cell : String) : List String := cell.splitOn "\n"

/-- The width of the widest line. -/
def blockWidth (lines : List String) : Nat := (lines.map Text.width).foldl max 0

/-- The lines of a cell, filled up with blanks to a width and with empty lines to a height. -/
def fill (alignment : Alignment) (width height : Nat) (cell : String) : List String :=
  let lines := linesOf cell
  let block := blockWidth lines
  let spare := width - block
  let before := match alignment with
    | .left => 0
    | .right => spare
  let filled := lines.map fun line =>
    blanks before ++ line ++ blanks (spare - before + (block - Text.width line))
  filled ++ List.replicate (height - lines.length) (blanks width)

/-- The width of a column. -/
def columnWidth (c : TextColumn) : Nat :=
  ((c.header :: c.cells).map fun cell => blockWidth (linesOf cell)).foldl max 0

/-- A line between rows, from its first, its inner and its last crossing. -/
def rule (first crossing last : String) (widths : List Nat) : String :=
  first ++ crossing.intercalate (widths.map fun n => String.ofList (List.replicate (n + 2) '─')) ++
    last

/-- One row, whose cells come with the alignment and the width of their columns. -/
def row (cells : List (Alignment × Nat × String)) : List String :=
  let height := (cells.map fun (_, _, cell) => (linesOf cell).length).foldl max 1
  let filled := cells.map fun (alignment, width, cell) => fill alignment width height cell
  (List.range height).map fun i =>
    "│ " ++ " │ ".intercalate (filled.map fun lines => lines.getD i "") ++ " │"

/-- The drawing of a table with a number of rows below the header. -/
def draw (columns : List TextColumn) (rows : Nat) : String :=
  let widths := columns.map columnWidth
  let cellsAt (cell : TextColumn → String) : List (Alignment × Nat × String) :=
    (columns.zip widths).map fun (c, width) => (c.alignment, width, cell c)
  let body := (List.range rows).flatMap fun i => row (cellsAt fun c => c.cells.getD i "")
  "\n".intercalate
    ([rule "╭" "┬" "╮" widths] ++ row (cellsAt TextColumn.header) ++
      [rule "├" "┼" "┤" widths] ++ body ++ [rule "╰" "┴" "╯" widths])

end TextTable

end CurvePnl
