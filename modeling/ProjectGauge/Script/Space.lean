/-!
# Space between tokens

White space, line breaks and remarks separate tokens. A remark runs to the end of its line or is
enclosed in a pair of marks; an enclosed one without an end takes the rest of the text. The arrow of
an HTML remark opens one where nothing but space stands in front of it on its line.

* `skip` passes over the space at the front of a text and counts the line breaks.
-/

namespace ProjectGauge.Script

def isLineBreak (c : Char) : Bool :=
  c == '\n' || c == '\r' || c == '\u2028' || c == '\u2029'

/-- White space within a line. -/
def isSpace (c : Char) : Bool :=
  c == ' ' || c == '\t' || c == '\x0b' || c == '\x0c' || c == '\xa0' || c == '\u1680' ||
    c == '\u180e' || ('\u2000' ≤ c && c ≤ '\u200a') || c == '\u202f' || c == '\u205f' || c == '\u3000' ||
    c == '\ufeff'

/-- A character completes a line break unless it is a carriage return in front of a line feed. -/
def endsLine (c : Char) (rest : List Char) : Bool :=
  isLineBreak c && !(c == '\r' && rest.head? == some '\n')

/-- The number of line breaks that a character completes. -/
def linesEnded (c : Char) (rest : List Char) : Nat :=
  if endsLine c rest then 1 else 0

/-- What is being passed over. The flag tells whether the line has held nothing but space. -/
inductive Space where
  | blank (opening : Bool)
  | lineRemark (opening : Bool)
  | blockRemark (opening : Bool)

/-- A text opens a remark that runs to the end of its line. Remarks of HTML are opened by their
closing mark at the start of a line, and by their opening mark where a flag allows it. -/
def opensLineRemark (html opening : Bool) (text : List Char) : Bool :=
  "//".toList.isPrefixOf text || (opening && "-->".toList.isPrefixOf text) ||
    (html && "<!--".toList.isPrefixOf text)

/-- The text behind the space at its front, and the number of its line. -/
def skip (html : Bool) : Space → Nat → List Char → List Char × Nat
  | _, line, [] => ([], line)
  | .blank opening, line, '/' :: '*' :: rest => skip html (.blockRemark opening) line rest
  | .blank opening, line, c :: rest =>
    if isSpace c then skip html (.blank opening) line rest
    else if isLineBreak c then skip html (.blank true) (line + linesEnded c rest) rest
    else if opensLineRemark html opening (c :: rest) then
      skip html (.lineRemark (opening || c == '/')) line rest
    else (c :: rest, line)
  | .lineRemark opening, line, c :: rest =>
    if endsLine c rest then skip html (.blank opening) (line + 1) rest
    else skip html (.lineRemark opening) line rest
  | .blockRemark opening, line, '*' :: '/' :: rest => skip html (.blank opening) line rest
  | .blockRemark opening, line, c :: rest =>
    skip html (.blockRemark opening) (line + linesEnded c rest) rest

end ProjectGauge.Script
