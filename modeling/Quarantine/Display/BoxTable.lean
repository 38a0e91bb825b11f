import Quarantine.Text.Split
import Quarantine.Text.Width

/-!
# Tables in boxes

A header and rows of cells, drawn with lines around them.  Each column is as wide as its widest
line, with a blank at both sides; a cell of several lines makes its row as high as that.

    ┌──────┬────────┐
    │ Rule ┆ Passed │
    ╞══════╪════════╡
    │ a    ┆ 1      │
    ├╌╌╌╌╌╌┼╌╌╌╌╌╌╌╌┤
    │ b    ┆ 2      │
    └──────┴────────┘
-/

namespace Quarantine

open Quarantine.Text

structure BoxTable where
  header : List String
  rows : List (List String)

namespace BoxTable

/-! ## Cells -/

def cellLines (cell : String) : List String := (split '\n' cell.toList).map String.ofList

def cellWidth (cell : String) : Nat := ((cellLines cell).map width).foldl max 0

/-- Widths place by place, as many as the first list has. -/
def widen (widths : List Nat) (row : List String) : List Nat :=
  widths.zipIdx.map fun (w, i) => max w ((row[i]?.map cellWidth).getD 0)

def widths (t : BoxTable) : List Nat := t.rows.foldl widen (t.header.map cellWidth)

/-! ## Lines -/

/-- The four signs of a line between rows. -/
structure Border where
  left : String
  fill : Char
  cross : String
  right : String

def top : Border := ⟨"┌", '─', "┬", "┐"⟩
def headerEnd : Border := ⟨"╞", '═', "╪", "╡"⟩
def between : Border := ⟨"├", '╌', "┼", "┤"⟩
def bottom : Border := ⟨"└", '─', "┴", "┘"⟩

def borderLine (b : Border) (widths : List Nat) : String :=
  b.left ++ b.cross.intercalate
    (widths.map fun w => String.ofList (List.replicate (w + 2) b.fill)) ++ b.right

/-- The lines of a row: its cells side by side, each filled up to the width of its column. -/
def rowLines (widths : List Nat) (row : List String) : List String :=
  let cells := row.map cellLines
  let height := (cells.map List.length).foldl max 1
  (List.range height).map fun i =>
    "│" ++ "┆".intercalate ((widths.zip cells).map fun (w, lines) =>
      " " ++ padTo w (lines[i]?.getD "") ++ " ") ++ "│"

/-- Rows with a line between neighbours. -/
def bodyLines (widths : List Nat) : List (List String) → List String
  | [] => []
  | [row] => rowLines widths row
  | row :: rest => rowLines widths row ++ borderLine between widths :: bodyLines widths rest

def lines (t : BoxTable) : List String :=
  let ws := t.widths
  [borderLine top ws] ++ rowLines ws t.header ++ [borderLine headerEnd ws] ++ bodyLines ws t.rows ++
    [borderLine bottom ws]

def render (t : BoxTable) : String := "\n".intercalate t.lines

end BoxTable
end Quarantine
