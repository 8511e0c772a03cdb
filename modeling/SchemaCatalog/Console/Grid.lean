import SchemaCatalog.Text.Width
/-!
# Grids of text

A grid has a heading and rows of cells, drawn with lines around it, below the heading and between
the columns. A column is as wide as its widest line and a blank on each side; a row is as high as
its highest cell.
-/

namespace SchemaCatalog.Console

/-- The lines of a cell. -/
abbrev Cell := List (List Char)

/-- A grid before it is drawn. -/
structure Grid where
  heading : List String
  rows : List (List String)

namespace Grid

/-- The lines of a cell's text. -/
def cell (text : String) : Cell :=
  text.toList.splitOn '\n'

/-- The width of the widest line. -/
def cellWidth (c : Cell) : Nat :=
  (c.map Text.displayWidth).foldl max 0

/-- The widths of the columns of rows that have so many cells. -/
def widths (columns : Nat) (rows : List (List Cell)) : List Nat :=
  rows.foldl (fun ws row => ws.zipWith max (row.map cellWidth)) (List.replicate columns 0)

/-- A line of a cell with a blank on each side, filled up to the width of the column. -/
def padded (width : Nat) (line : List Char) : List Char :=
  ' ' :: line ++ List.replicate (width - Text.displayWidth line) ' ' ++ [' ']

/-- A row drawn as one or more lines. -/
def rowLines (ws : List Nat) (row : List Cell) : List (List Char) :=
  let height := (row.map List.length).foldl max 1
  (List.range height).map fun i =>
    let parts := ws.zipWith (fun w lines => padded w (lines[i]?.getD [])) row
    '│' :: ['┆'].intercalate parts ++ ['│']

/-- A line across the grid, with its two ends, its stroke and what stands at the columns' bounds. -/
def rule (ws : List Nat) (left stroke crossing right : Char) : List Char :=
  left :: [crossing].intercalate (ws.map fun w => List.replicate (w + 2) stroke) ++ [right]

/-- The lines of the grid. -/
def lines (g : Grid) : List String :=
  let heading := g.heading.map cell
  let rows := g.rows.map fun row => row.map cell
  let ws := widths heading.length (heading :: rows)
  let drawn :=
    [rule ws '┌' '─' '┬' '┐'] ++ rowLines ws heading ++ [rule ws '╞' '═' '╪' '╡'] ++
      rows.flatMap (rowLines ws) ++ [rule ws '└' '─' '┴' '┘']
  drawn.map String.ofList

/-- The grid as text. -/
def text (g : Grid) : String :=
  "\n".intercalate g.lines

end Grid

end SchemaCatalog.Console
