import ProjectGauge.Console.Wrap

/-!
# Tables

A table has a title, a head with heavy lines and rows with light ones. A column is as wide as its
widest cell; only a table that is too wide for the console takes cells away from its widest column,
whose texts are then wrapped.
-/

namespace ProjectGauge.Console

/-- Where a cell has its spaces. -/
inductive Side where
  | left
  | right
  deriving DecidableEq

/-- A column with its head. -/
structure Column where
  title : String
  spaces : Side

/-- The lines that a row is drawn with: in front, between the cells and behind. -/
structure Strokes where
  first : Char
  between : Char
  last : Char

/-- The cells of a row, or of the head, in the order of the columns. -/
abbrev Row := List (List Char)

/-- A line that ends with an ellipsis if it is too wide. -/
def shortened (width : Nat) (line : List Char) : List Char :=
  if Text.cells line ≤ width then line else Text.crop (width - 1) line ++ ['…']

/-- A line of a cell with its spaces. A joiner at the end of a text takes one of them, and another one
takes its place. -/
def cellLine (column : Column) (width : Nat) (line : List Char) : List Char :=
  let line := shortened width line
  match column.spaces with
  | .left => spaces (width - Text.cells line) ++ line
  | .right => filled width (filled width line)

/-- Texts with a stroke in front of, between and behind them. -/
def strokeThrough (strokes : Strokes) (texts : List (List Char)) : List Char :=
  match texts with
  | [] => []
  | text :: others =>
    strokes.first :: text ++ (others.flatMap fun text => strokes.between :: text) ++ [strokes.last]

def tableRule (strokes : Strokes) (stroke : Char) (widths : List Nat) : List Char :=
  strokeThrough strokes (widths.map fun width => List.replicate (width + 2) stroke)

/-- The lines of a row, as many as its cell with the most lines has. -/
def rowLines (strokes : Strokes) (columns : List Column) (widths : List Nat) (row : Row) :
    List (List Char) :=
  let cells := widths.zipWith wrapped row
  let height := cells.foldl (fun height lines => max height lines.length) 0
  (List.range height).map fun index =>
    strokeThrough strokes <|
      (columns.zip (widths.zip cells)).map fun (column, width, lines) =>
        ' ' :: cellLine column width (lines.getD index []) ++ [' ']

/-- The cells of the widest line in each column. -/
def columnWidths (columns : List Column) (rows : List Row) : List Nat :=
  rows.foldl (fun widths row => widths.zipWith (fun width cell => max width (widestLine cell)) row)
    (columns.map fun column => Text.cells column.title.toList)

/-- Widths of which the greatest is smaller by a number of cells. -/
def narrowed (excess : Nat) (widths : List Nat) : List Nat :=
  let greatest := widths.foldl max 0
  widths.map fun width => if width = greatest then max 1 (width - excess) else width

def tableCells (widths : List Nat) : Nat :=
  widths.foldl (fun cells width => cells + width + 3) 1

def table (title : String) (columns : List Column) (rows : List Row) : List Char :=
  let rows := rows.map fun row => row.map visible
  let natural := columnWidths columns rows
  let widths := narrowed (tableCells natural - lineCells) natural
  let head := columns.map fun column => column.title.toList
  joinLines <|
    [title.toList, tableRule ⟨'┏', '┳', '┓'⟩ '━' widths] ++
      rowLines ⟨'┃', '┃', '┃'⟩ columns widths head ++
      [tableRule ⟨'┡', '╇', '┩'⟩ '━' widths] ++
      rows.flatMap (rowLines ⟨'│', '│', '│'⟩ columns widths) ++
      [tableRule ⟨'└', '┴', '┘'⟩ '─' widths]

end ProjectGauge.Console
