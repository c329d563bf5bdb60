import ProjectGauge.Console.Line
import ProjectGauge.Text.Blank

/-!
# Wrapped lines

A line that is too wide is broken between words. A word that is wider than a whole line starts a line of
its own, whose end then gives way to an ellipsis.

* `wrapped` gives the lines of a text with no more than a number of cells each.
-/

namespace ProjectGauge.Console

/-! ## Words -/

/-- What has been seen of the word at hand. -/
inductive WordPart where
  | front
  | word
  | back
  deriving DecidableEq

/-- The words of a line with the blanks behind each; the first one has those in front of it as well.
Blanks that follow no word are no word. -/
def wordsFrom : WordPart → List Char → List (List Char)
  | _, [] => [[]]
  | part, c :: rest =>
    let behind := if !Text.isBlank c then .word else if part = .front then .front else .back
    match wordsFrom behind rest with
    | word :: others =>
      if part = .back && !Text.isBlank c then [] :: (c :: word) :: others
      else (c :: word) :: others
    | [] => [[c]]

/-- The words of a line with the blanks around them. -/
def lineWords (line : List Char) : List (List Char) :=
  wordsFrom .front line

/-- A text without the blanks at its end. -/
def dropFinalBlanks (text : List Char) : List Char :=
  (text.reverse.dropWhile Text.isBlank).reverse

/-! ## Breaking -/

/-- The lines that words are put into, behind one that takes some cells. -/
def fillLines (width : Nat) : List Char → Nat → List (List Char) → List (List Char)
  | line, _, [] => [line]
  | line, column, word :: rest =>
    let wordCells := Text.cells (dropFinalBlanks word)
    if column + wordCells ≤ width then
      fillLines width (line ++ word) (column + Text.cells word) rest
    else if line.isEmpty then
      fillLines width word (if width < wordCells then Text.cells word else column) rest
    else if width < wordCells || column != 0 then line :: fillLines width word (Text.cells word) rest
    else fillLines width (line ++ word) column rest

/-- A line without the blanks at its end as far as it has more characters than the line has cells. -/
def dropExcessBlanks (width : Nat) (line : List Char) : List Char :=
  let blanks := line.length - (dropFinalBlanks line).length
  line.take (line.length - min blanks (line.length - width))

/-- The lines of a text with no more than a number of cells each. -/
def wrapped (width : Nat) (text : List Char) : List (List Char) :=
  (linesOf text).flatMap fun line =>
    (fillLines width [] 0 (lineWords (expandTabs line))).map (dropExcessBlanks width)

end ProjectGauge.Console
