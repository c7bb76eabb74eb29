import AutoImport.Load
import AutoImport.Terminal
import AutoImport.Text.Width

/-!
# Text tables

A table of texts, drawn with lines around every cell:

    ╭──────┬────────┬────────────────────╮
    │ Name ┆ Module ┆ Statement          │
    ╞══════╪════════╪════════════════════╡
    │ np   ┆ -      ┆ import numpy as np │
    ╰──────┴────────┴────────────────────╯

A column is as wide as its widest line, with a blank on either side. Cells are padded on the right
and never broken, except where their text has a line break. A row that is short of cells is filled
up with empty ones. On a terminal the header is bold.
-/

namespace AutoImport

/-- A table of texts. -/
structure Grid where
  /-- The cells of the header, if there is one. -/
  header? : Option (List String)
  rows : List (List String)
  deriving DecidableEq, Repr

namespace Grid

/-- The lines of a cell. -/
def cellLines (cell : String) : List (List Char) :=
  cell.toList.splitOn '\n'

/-- The columns a cell takes. -/
def cellWidth (cell : String) : Nat :=
  ((cellLines cell).map Text.width).foldl max 0

/-- The header, if there is one, and the rows. -/
def allRows (g : Grid) : List (List String) :=
  g.header?.toList ++ g.rows

/-- The number of columns: that of the longest row. -/
def columnCount (g : Grid) : Nat :=
  (g.allRows.map List.length).foldl max 0

/-- The cell of a row in a column. -/
def cellAt (row : List String) (column : Nat) : String :=
  row[column]?.getD ""

/-- The width of each column, without the blanks around the cells: at least one. -/
def columnWidths (g : Grid) : List Nat :=
  (List.range g.columnCount).map fun column =>
    (g.allRows.map fun row => cellWidth (cellAt row column)).foldl max 1

/-- A line between rows: its ends, what runs along the cells, and what stands between columns. -/
def rule (left along between right : Char) (widths : List Nat) : List Char :=
  let runs := widths.map fun w => List.replicate (w + 2) along
  left :: [between].intercalate runs ++ [right]

/-- A line of a cell, between blanks and padded to the width of its column. -/
def padded (width : Nat) (line : List Char) : List Char :=
  ' ' :: line ++ List.replicate (width - Text.width line) ' ' ++ [' ']

/-- How many lines a row takes: as many as its longest cell, and one if it has no cells. -/
def rowHeight (row : List String) : Nat :=
  (row.map fun cell => (cellLines cell).length).foldl max 1

/-- The lines of a row. `decorate` is applied to each cell that the row really has. -/
def rowLines (decorate : List Char → List Char) (widths : List Nat) (row : List String) :
    List (List Char) :=
  (List.range (rowHeight row)).map fun i =>
    let cells := widths.zipIdx.map fun (width, column) =>
      let line := padded width ((cellLines (cellAt row column))[i]?.getD [])
      if column < row.length then decorate line else line
    '│' :: ['┆'].intercalate cells ++ ['│']

/-- A line of the header, bold. -/
def bold (line : List Char) : List Char :=
  (Terminal.escape "1").toList ++ line ++ (Terminal.escape "0").toList

/-- The lines of the body, with a rule between every two rows. -/
def bodyLines (widths : List Nat) (rows : List (List String)) : List (List Char) :=
  [rule '├' '╌' '┼' '┤' widths].intercalate (rows.map (rowLines id widths))

/-- The lines of a table. A table without columns has no rows to show. -/
def lines (g : Grid) (isTerminal : Bool) : List (List Char) :=
  let widths := g.columnWidths
  let header :=
    match g.header? with
    | none => []
    | some cells =>
      (if widths.isEmpty then [] else rowLines (if isTerminal then bold else id) widths cells) ++
        [rule '╞' '═' '╪' '╡' widths]
  rule '╭' '─' '┬' '╮' widths :: header ++
    (if widths.isEmpty then [] else bodyLines widths g.rows) ++
    [rule '╰' '─' '┴' '╯' widths]

/-- The text of a table, without a line break at the end. -/
def render (g : Grid) (isTerminal : Bool) : String :=
  .ofList (['\n'].intercalate (g.lines isTerminal))

/-! ## The tables of the program -/

/-- The row of a binding: what is typed, where it comes from, and the statement to insert. -/
def bindingRow (b : Binding) : List String :=
  [b.localName, if b.isTopLevel then "-" else b.module, b.statement]

/-- A table of bindings. -/
def ofBindings (bs : List Binding) : Grid :=
  ⟨some ["Name", "Module", "Statement"], bs.map bindingRow⟩

/-- A table of what a load did. -/
def ofReport (r : Report) : Grid :=
  ⟨some ["Metric", "Value"],
    [["File", r.path], ["Names", r.imports.repr], ["Aliases", r.aliases.repr],
      ["Unrecognized lines", r.unrecognized.length.repr]]⟩

end Grid

end AutoImport
