import ProjectGauge.Text.Width

/-!
# Terminal cells of texts

A character is shown together with the characters without a cell behind it. A joiner draws the next
character into the picture of the one in front of it, and a selector may ask for a wide picture in the
place of a narrow character.

* `cells` is the number of terminal cells of a text.
* `graphemes` cuts a text into what is shown together, and `crop` keeps what fits into a number of
  cells.
-/

namespace ProjectGauge.Text

/-- The character that joins the two beside it. -/
def joiner : Char := '\u200d'

/-- The character that asks for the picture of the one in front of it. -/
def pictureSelector : Char := '\ufe0f'

/-! ## Measuring -/

/-- The cells that a selector adds behind the last character with cells. -/
def pictureCells : Option Char → Nat
  | some c => if pictureRanges.contains c then 1 else 0
  | none => 0

def cellsBehind : Option Char → List Char → Nat
  | _, [] => 0
  | last, c :: rest =>
    if c == joiner then
      match rest with
      | [] => 0
      | _ :: rest => cellsBehind last rest
    else if c == pictureSelector then pictureCells last + cellsBehind none rest
    else if cellWidth c = 0 then cellsBehind last rest
    else cellWidth c + cellsBehind (some c) rest

/-- The number of terminal cells of a text. -/
def cells (text : List Char) : Nat :=
  cellsBehind none text

/-! ## Cutting -/

/-- Characters that are shown together. -/
structure Grapheme where
  chars : List Char
  cells : Nat

def Grapheme.extend (grapheme : Grapheme) (chars : List Char) (cells : Nat) : Grapheme :=
  ⟨grapheme.chars ++ chars, grapheme.cells + cells⟩

/-- The graphemes of a text behind the start of the first one and a character with cells. At the start
of a text there is nothing to join. -/
def graphemesBehind (first : Grapheme) : Option Char → List Char → List Grapheme
  | _, [] => [first]
  | last, c :: rest =>
    if c == joiner && !first.chars.isEmpty then
      match rest with
      | [] => [first.extend [c] 0]
      | d :: rest => graphemesBehind (first.extend [c, d] 0) last rest
    else if c == pictureSelector then
      graphemesBehind (first.extend [c] (pictureCells last)) none rest
    else if cellWidth c = 0 then graphemesBehind (first.extend [c] 0) last rest
    else first :: graphemesBehind ⟨[c], cellWidth c⟩ (some c) rest

/-- The graphemes of a text. The first one may have no cells. -/
def graphemes (text : List Char) : List Grapheme :=
  graphemesBehind ⟨[], 0⟩ none text

/-- The graphemes that fit into a number of cells. The half of one that does not is a space. -/
def cropGraphemes : Nat → List Grapheme → List Char
  | _, [] => []
  | width, grapheme :: rest =>
    if grapheme.cells ≤ width then grapheme.chars ++ cropGraphemes (width - grapheme.cells) rest
    else List.replicate width ' '

/-- The front of a text that takes a number of cells. -/
def crop (width : Nat) (text : List Char) : List Char :=
  if width = 0 then [] else cropGraphemes width (graphemes text)

end ProjectGauge.Text
