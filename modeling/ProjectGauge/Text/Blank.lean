import ProjectGauge.Text.Ranges

/-!
# Blank characters

A blank is a character of bidirectional class WS, B or S or of category Zs: the class that the
patterns of this library call whitespace and that is stripped from typed paths. The zero-width
space and the byte order mark are not blanks.
-/

namespace ProjectGauge.Text

/-- Every blank character. -/
def blankRanges : Ranges := [
  (0x9, 0xd), (0x1c, 0x20), (0x85, 0x85), (0xa0, 0xa0), (0x1680, 0x1680),
  (0x2000, 0x200a), (0x2028, 0x2029), (0x202f, 0x202f), (0x205f, 0x205f), (0x3000, 0x3000)]

def isBlank (c : Char) : Bool :=
  blankRanges.contains c

/-- A text without the blanks at its two ends. -/
def stripBlanks (text : List Char) : List Char :=
  ((text.dropWhile isBlank).reverse.dropWhile isBlank).reverse

end ProjectGauge.Text
