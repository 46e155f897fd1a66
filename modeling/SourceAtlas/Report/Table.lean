import SourceAtlas.Json.Printer
import SourceAtlas.Text.Width

/-!
# Tables

Rows of cells under a header, for people to read. Columns are as wide as their widest line, one
blank stands on either side of each cell, bars stand between columns, and a rule stands under the
header. A cell may have several lines.
-/

namespace SourceAtlas

/-- A kind of row, for a table and for a list of JSON objects. -/
class Tabular (ρ : Type) where
  header : List String
  cells : ρ → List String
  toJson : ρ → Json

namespace Table

/-- The lines of a cell. -/
def lines (cell : String) : List String :=
  cell.splitOn "\n"

/-- The width of the widest line of a cell. -/
def cellWidth (cell : String) : Nat :=
  (lines cell).foldl (fun widest line => max widest (Text.width line)) 0

/-- The widths of the columns of some rows. -/
def columnWidths : List (List String) → List Nat
  | [] => []
  | [row] => row.map cellWidth
  | row :: rows => List.zipWith max (row.map cellWidth) (columnWidths rows)

/-- A line with blanks up to a width. -/
def pad (width : Nat) (line : String) : String :=
  line ++ String.ofList (List.replicate (width - Text.width line) ' ')

/-- A line of a row: for each column its width, and the text in it. -/
def renderLine (columns : List (Nat × String)) : String :=
  "|".intercalate (columns.map fun (width, line) => " " ++ pad width line ++ " ")

/-- A row, in as many lines as its tallest cell has. -/
def renderRow (widths : List Nat) (row : List String) : List String :=
  let cells := row.map lines
  let height := cells.foldl (fun tallest cell => max tallest cell.length) 0
  (List.range height).map fun i =>
    renderLine (widths.zip (cells.map fun cell => cell[i]?.getD ""))

/-- The rule under the header. -/
def renderRule (widths : List Nat) : String :=
  "+".intercalate (widths.map fun width => String.ofList (List.replicate (width + 2) '-'))

/-- A table with a header. -/
def render (header : List String) (rows : List (List String)) : String :=
  let widths := columnWidths (header :: rows)
  "\n".intercalate
    (renderRow widths header ++ renderRule widths :: rows.flatMap (renderRow widths))

end Table

/-- Rows as they are printed: a JSON list, or a table unless there are no rows. -/
def printRows {ρ : Type} [Tabular ρ] (rows : List ρ) (json : Bool) : String :=
  if json then (Json.arr (rows.map Tabular.toJson)).pretty ++ "\n"
  else if rows.isEmpty then ""
  else Table.render (Tabular.header ρ) (rows.map Tabular.cells) ++ "\n"

end SourceAtlas
