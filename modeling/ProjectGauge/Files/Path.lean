import ProjectGauge.Text.Pieces
import ProjectGauge.Text.Utf8

/-!
# Paths

A path is a list of names behind an anchor. It is read from a text with slashes between the names;
empty names and single points say nothing and are dropped, and two points stay, because what they lead
to depends on links.

* `Path.parse` and `Path.text` read and write paths.
* `suffix` is the end of a name from its last point on.
-/

namespace ProjectGauge.Files

/-- A file name. -/
abbrev Name := List Char

/-- Where a path starts: at the working directory, at the root, or at a root with two slashes. -/
inductive Anchor where
  | here
  | root
  | doubleRoot
  deriving DecidableEq

def Anchor.text : Anchor → List Char
  | .here => []
  | .root => ['/']
  | .doubleRoot => ['/', '/']

/-- A path. -/
structure Path where
  anchor : Anchor
  names : List Name
  deriving DecidableEq

/-- The single point, which names the directory itself. -/
def self : Name := ['.']

/-- The two points, which name the directory above. -/
def parent : Name := ['.', '.']

/-- The pieces of a text between its slashes. -/
def splitSlashes (text : List Char) : List Name :=
  Text.pieces (· == '/') text

/-- The names in a text: its pieces without the empty ones. -/
def namesIn (text : List Char) : List Name :=
  (splitSlashes text).filter fun name => !name.isEmpty

/-- The anchor of a text. Exactly two slashes make an anchor of their own. -/
def anchorOf (text : List Char) : Anchor :=
  match (text.takeWhile (· == '/')).length with
  | 0 => .here
  | 2 => .doubleRoot
  | _ => .root

/-- Texts with a separator between them. -/
def joined (separator : List Char) : List (List Char) → List Char
  | [] => []
  | [text] => text
  | text :: rest => text ++ separator ++ joined separator rest

namespace Path

def parse (text : List Char) : Path :=
  ⟨anchorOf text, (namesIn text).filter (· != self)⟩

/-- The text of a path. The path without names at the working directory is a point. -/
def text (path : Path) : List Char :=
  match path.anchor, path.names with
  | .here, [] => self
  | anchor, names => anchor.text ++ joined ['/'] names

/-- The path of a name in the directory of a path. -/
def child (path : Path) (name : Name) : Path :=
  { path with names := path.names ++ [name] }

/-- The path of names below a path. -/
def below (path : Path) (names : List Name) : Path :=
  { path with names := path.names ++ names }

/-- The path of the directory that holds a path; without names a path is its own. -/
def parentPath (path : Path) : Path :=
  { path with names := path.names.dropLast }

/-- The path from the root along names. -/
def ofNames (names : List Name) : Path :=
  ⟨.root, names⟩

end Path

/-- The text of names with slashes between them. -/
def relativeText (names : List Name) : List Char :=
  joined ['/'] names

/-- The end of a name from its last point on; a point at either end of the name does not count. -/
def suffix (name : Name) : List Char :=
  let tail := (name.reverse.takeWhile (· != '.')).reverse
  if tail.isEmpty || name.length ≤ tail.length + 1 then [] else '.' :: tail

/-- A name that starts with a point. -/
def isHidden (name : Name) : Bool :=
  name.head? == some '.'

end ProjectGauge.Files
