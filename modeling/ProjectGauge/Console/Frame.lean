import ProjectGauge.Console.Line

/-!
# Frames

A frame is a box with rounded corners around a text, as wide as its widest line.
-/

namespace ProjectGauge.Console

/-- The cells that a frame takes beside its text. -/
def frameCells : Nat := 4

def frameLine (width : Nat) (line : List Char) : List Char :=
  "│ ".toList ++ fitted width (expandTabs line) ++ " │".toList

def frameRule (left right : Char) (width : Nat) : List Char :=
  left :: List.replicate (width + 2) '─' ++ [right]

def frame (text : List Char) : List Char :=
  let text := visible text
  let width := min (widestLine text) (lineCells - frameCells)
  joinLines
    (frameRule '╭' '╮' width :: (linesOf text).map (frameLine width) ++ [frameRule '╰' '╯' width])

end ProjectGauge.Console
