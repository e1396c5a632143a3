import BuilderGen.Unicode.Width

/-!
# Tables

A table has a header and rows of cells. A column is as wide as its widest line, and a cell may have
several lines. There are two ways to draw the borders: with line characters, and with the
characters of a typewriter, where rows are separated as well.
-/

namespace BuilderGen.Console

/-- The characters of a horizontal line: its ends, its body, and where it meets a column border. -/
structure Rule where
  /-- The left end. -/
  left : Char
  /-- The body. -/
  body : Char
  /-- Where it meets the border between two columns. -/
  joint : Char
  /-- The right end. -/
  right : Char
  deriving DecidableEq, Repr

/-- How the borders of a table are drawn. -/
structure Borders where
  /-- The line above the header. -/
  top : Rule
  /-- The line below the header. -/
  header : Rule
  /-- The line between two rows, if there is one. -/
  row : Option Rule
  /-- The line below the last row. -/
  bottom : Rule
  /-- The left and right borders. -/
  side : Char
  /-- The border between two columns. -/
  column : Char
  deriving DecidableEq, Repr

/-- Borders of line characters, without lines between rows. -/
def Borders.drawn : Borders where
  top := ⟨'┌', '─', '┬', '┐'⟩
  header := ⟨'╞', '═', '╪', '╡'⟩
  row := none
  bottom := ⟨'└', '─', '┴', '┘'⟩
  side := '│'
  column := '┆'

/-- Borders of typewriter characters. -/
def Borders.typed : Borders where
  top := ⟨'+', '-', '+', '+'⟩
  header := ⟨'+', '=', '=', '+'⟩
  row := some ⟨'|', '-', '+', '|'⟩
  bottom := ⟨'+', '-', '+', '+'⟩
  side := '|'
  column := '|'

/-- A table. Every row has as many cells as the header. -/
structure Table where
  /-- The header. -/
  header : List String
  /-- The rows. -/
  rows : List (List String)
  deriving DecidableEq, Repr

/-- The lines of a text. -/
def textLines : List Char → List (List Char)
  | [] => [[]]
  | '\n' :: rest => [] :: textLines rest
  | c :: rest =>
    match textLines rest with
    | [] => [[c]]
    | line :: lines => (c :: line) :: lines

/-- The lines of a cell. -/
def cellLines (cell : String) : List String := (textLines cell.toList).map String.ofList

namespace Table

/-- The width of a cell. -/
def cellWidth (cell : String) : Nat := ((cellLines cell).map Unicode.width).foldl max 0

/-- The widths of the columns of rows. -/
def columnWidths : List (List String) → List Nat
  | [] => []
  | [row] => row.map cellWidth
  | row :: rest => List.zipWith max (row.map cellWidth) (columnWidths rest)

/-- Columns with a border between any two and at both ends. -/
def embed (left between right : Char) (columns : List String) : String :=
  left.toString ++ between.toString.intercalate columns ++ right.toString

/-- A horizontal line. -/
def Rule.draw (r : Rule) (widths : List Nat) : String :=
  embed r.left r.joint r.right (widths.map fun w => String.ofList (List.replicate (w + 2) r.body))

/-- A line of a cell, with blanks up to the width of the column and one more on both sides. -/
def pad (line : String) (width : Nat) : String :=
  " " ++ line ++ String.ofList (List.replicate (width - Unicode.width line) ' ') ++ " "

/-- The lines of a row. -/
def drawRow (b : Borders) (widths : List Nat) (row : List String) : List String :=
  let cells := row.map cellLines
  let height := (cells.map List.length).foldl max 0
  (List.range height).map fun i =>
    let columns := List.zipWith (fun lines w => pad (lines.getD i "") w) cells widths
    embed b.side b.column b.side columns

/-- The lines of rows, with the line between any two. -/
def drawRows (b : Borders) (widths : List Nat) : List (List String) → List String
  | [] => []
  | [row] => drawRow b widths row
  | row :: rest =>
    drawRow b widths row ++ (b.row.map (Rule.draw · widths)).toList ++ drawRows b widths rest

/-- The text of a table. -/
def draw (t : Table) (b : Borders) : String :=
  let widths := columnWidths (t.header :: t.rows)
  "\n".intercalate <|
    [Rule.draw b.top widths] ++ drawRow b widths t.header ++ [Rule.draw b.header widths]
      ++ drawRows b widths t.rows ++ [Rule.draw b.bottom widths]

end Table

end BuilderGen.Console
