/-!
# Line ends

A line ends with a line feed, with a carriage return, or with both in this order. Text that is read
from a file has a line feed for each of them.
-/

namespace ProjectGauge.Text

/-- The text behind the part that has been read, with a line feed for each line end. -/
def unifyNewlinesFrom : List Char → List Char → List Char
  | read, [] => read.reverse
  | read, c :: rest =>
    if c == '\r' then
      if rest.head? == some '\n' then unifyNewlinesFrom read rest
      else unifyNewlinesFrom ('\n' :: read) rest
    else unifyNewlinesFrom (c :: read) rest

/-- A text with a line feed for each line end. -/
def unifyNewlines (text : List Char) : List Char :=
  unifyNewlinesFrom [] text

end ProjectGauge.Text
