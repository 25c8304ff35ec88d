/-!
Tables drawn with box characters: a frame around everything, a double line under
the header and dashed lines between rows and columns. A column is as wide as its
longest cell.
-/
namespace PipeBus.Text

/-- A table. Every row has as many cells as the header. -/
structure Table where
  header : List String
  rows : List (List String)

namespace Table

def widths (table : Table) : List Nat :=
  table.rows.foldl (fun found row => List.zipWith max found (row.map String.length))
    (table.header.map String.length)

/-- A horizontal line: corners, what it is drawn with, and where it crosses a column line. -/
def rule (left line cross right : String) (widths : List Nat) : String :=
  let spans := widths.map fun width => String.join (List.replicate (width + 2) line)
  left ++ String.intercalate cross spans ++ right

/-- A cell filled with blanks to the width of its column. -/
def padded (width : Nat) (cell : String) : String :=
  cell ++ String.ofList (List.replicate (width - cell.length) ' ')

def line (widths : List Nat) (cells : List String) : String :=
  "│ " ++ String.intercalate " ┆ " (List.zipWith padded widths cells) ++ " │"

def lines (table : Table) : List String :=
  let widths := table.widths
  [rule "┌" "─" "┬" "┐" widths, line widths table.header, rule "╞" "═" "╪" "╡" widths]
    ++ (table.rows.map (line widths)).intersperse (rule "├" "╌" "┼" "┤" widths)
    ++ [rule "└" "─" "┴" "┘" widths]

end Table

end PipeBus.Text
