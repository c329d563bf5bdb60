/-!
# Padding

Texts filled up with spaces to a width, counted in characters. A text that is wider already stays
as it is.
-/

namespace ProjectGauge.Text

/-- A text with spaces behind it up to a width. -/
def padRight (width : Nat) (text : List Char) : List Char :=
  text ++ List.replicate (width - text.length) ' '

/-- A text with spaces in front of it up to a width. -/
def padLeft (width : Nat) (text : List Char) : List Char :=
  List.replicate (width - text.length) ' ' ++ text

/-- The width of the widest of some texts. -/
def widest (texts : List (List Char)) : Nat :=
  texts.foldl (fun width text => max width text.length) 0

end ProjectGauge.Text
