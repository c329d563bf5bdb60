import ProjectGauge.Console.Emoji
import ProjectGauge.Text.Grapheme

/-!
# Lines on a console

A text is printed line by line. Characters that would move the cursor are left out, and a tab goes on
to the next tab stop, which depends on the cells in front of it.

* `laidOut` is what a text looks like, and `printed` is the same with emoji in the place of their names.
* `fitted` cuts a line or fills it up to a number of cells.
-/

namespace ProjectGauge.Console

def lineCells : Nat := 160

/-- The cells from one tab stop to the next. -/
def tabCells : Nat := 8

/-- A character that is not printed: bell, backspace, vertical tab, form feed or carriage return. -/
def isUnprinted (c : Char) : Bool :=
  c == '\x07' || c == '\x08' || c == '\x0b' || c == '\x0c' || c == '\x0d'

/-- A text without the characters that are not printed. -/
def visible (text : List Char) : List Char :=
  text.filter fun c => !isUnprinted c

/-- A number of spaces. -/
def spaces (count : Nat) : List Char :=
  List.replicate count ' '

/-! ## Tabs -/

/-- The pieces between tabs behind a number of cells. A tab is a space and those up to the next stop. -/
def joinTabbed (column : Nat) : List (List Char) → List Char
  | [] => []
  | [piece] => piece
  | piece :: rest =>
    let piece := piece ++ [' ']
    let column := column + Text.cells piece
    let missing := (tabCells - column % tabCells) % tabCells
    piece ++ spaces missing ++ joinTabbed (column + missing) rest

def expandTabs (line : List Char) : List Char :=
  joinTabbed 0 (Text.pieces (· == '\t') line)

/-! ## Printing -/

/-- The lines of a text, of which there is one more than line feeds. -/
def linesOf (text : List Char) : List (List Char) :=
  Text.pieces (· == '\n') text

/-- Lines with a line feed behind each. -/
def joinLines (lines : List (List Char)) : List Char :=
  lines.flatMap fun line => line ++ ['\n']

/-- A text as it looks, with a line feed at its end. -/
def laidOut (text : List Char) : List Char :=
  joinLines ((linesOf (visible text)).map expandTabs)

def printed (text : List Char) : List Char :=
  laidOut (withEmoji text)

def printedString (text : String) : List Char :=
  printed text.toList

/-! ## Fitting -/

/-- A line with spaces behind it up to a number of cells. -/
def filled (width : Nat) (line : List Char) : List Char :=
  line ++ spaces (width - Text.cells line)

/-- A line that takes a number of cells: it is cut, or filled up with spaces. -/
def fitted (width : Nat) (line : List Char) : List Char :=
  if Text.cells line ≤ width then filled width line else Text.crop width line

/-- A character that ends a line for the measurement of a text. -/
def isLineEnd (c : Char) : Bool :=
  c == '\n' || c == '\x1c' || c == '\x1d' || c == '\x1e' || c == '\x85' || c == '\u2028' ||
    c == '\u2029'

def widestLine (text : List Char) : Nat :=
  ((Text.pieces isLineEnd text).map Text.cells).foldl max 0

end ProjectGauge.Console
