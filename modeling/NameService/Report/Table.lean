import NameService.Text.Columns
import NameService.Text.Split

/-!
# Tables

A table is drawn with a frame around it, a double rule below its header and a
dashed rule between its rows. A cell may have several lines, and a column of the
table takes up as many columns of the text as the widest line in it.
-/

namespace NameService
namespace Report

/-- A table of text. -/
structure Table where
  header : List String
  rows : List (List String)
  deriving Repr

namespace Table

/-- The lines of a cell. -/
def cellLines (cell : String) : List (List Char) :=
  Text.split (· == '\n') cell.toList

/-- The width of the widest line of a cell. -/
def cellWidth (cell : String) : Nat :=
  ((cellLines cell).map Text.columns).foldl max 0

/-- The widths of the columns. -/
def widths (table : Table) : List Nat :=
  (List.range table.header.length).map fun column =>
    ((table.header :: table.rows).map fun row =>
      cellWidth (row.getD column "")).foldl max 0

/-- A rule: a left end, the line itself, its crossings and a right end. -/
structure Rule where
  left : Char
  line : Char
  crossing : Char
  right : Char

/-- The rule above the header. -/
def topRule : Rule := ⟨'┌', '─', '┬', '┐'⟩

/-- The rule below the header. -/
def headerRule : Rule := ⟨'╞', '═', '╪', '╡'⟩

/-- The rule between two rows. -/
def rowRule : Rule := ⟨'├', '╌', '┼', '┤'⟩

/-- The rule below the last row. -/
def bottomRule : Rule := ⟨'└', '─', '┴', '┘'⟩

/-- Pieces with a separator between them. -/
def joined (separator : List Char) (pieces : List (List Char)) : List Char :=
  separator.intercalate pieces

/-- Draw a rule over columns. -/
def drawRule (widths : List Nat) (rule : Rule) : List Char :=
  rule.left ::
    (joined [rule.crossing]
      (widths.map fun width => List.replicate (width + 2) rule.line) ++
      [rule.right])

/-- A text with blanks behind it up to a width. -/
def padded (width : Nat) (text : List Char) : List Char :=
  text ++ List.replicate (width - Text.columns text) ' '

/-- One line of a row, from one line of each of its cells. -/
def drawLine (widths : List Nat) (cells : List (List Char)) : List Char :=
  "│ ".toList ++ joined " ┆ ".toList (List.zipWith padded widths cells) ++
    " │".toList

/-- Draw a row, as many lines as its highest cell has. -/
def drawRow (widths : List Nat) (row : List String) : List (List Char) :=
  let cells := row.map cellLines
  let height := (cells.map List.length).foldl max 0
  (List.range height).map fun position =>
    drawLine widths (cells.map fun lines => lines.getD position [])

/-- The lines of a table. -/
def lines (table : Table) : List (List Char) :=
  let widths := table.widths
  let rows := table.rows.map (drawRow widths)
  [drawRule widths topRule] ++ drawRow widths table.header ++
    [drawRule widths headerRule] ++
    [drawRule widths rowRule].intercalate rows ++ [drawRule widths bottomRule]

/-- Draw a table. -/
def text (table : Table) : String := String.ofList (joined ['\n'] table.lines)

end Table
end Report
end NameService
