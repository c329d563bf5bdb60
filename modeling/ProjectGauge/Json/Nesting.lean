import ProjectGauge.Json.Reader

/-!
# Nesting

The interpreter in which JSON text is read makes a call for each list and each object that is open, and
has room for so many calls only. A text that opens one too many is given up at once, whatever follows.

* `overflow?` finds the bracket for which there is no room.
* `readWithin` reads a text with room for some depth. `Json.read` is the reader without that limit.
-/

namespace ProjectGauge.Json

/-- What a bracket opens. -/
inductive Container where
  | list
  | object
  deriving DecidableEq

def Container.ofBracket? (c : Char) : Option Container :=
  if c == '[' then some .list
  else if c == '\x7b' then some .object
  else none

/-- The wording of the failure to open one more list or object. -/
def Container.tooDeep : Container → String
  | .list => "maximum recursion depth exceeded while decoding a JSON array from a unicode string"
  | .object => "maximum recursion depth exceeded while decoding a JSON object from a unicode string"

/-- Where the characters of a text stand: outside the strings, inside one, or behind its backslash. -/
inductive Region where
  | outside
  | string
  | escape
  deriving DecidableEq

/-- The first bracket of a text for which there is no room, if there is one. A bracket that closes makes
room, and brackets in strings do not count. -/
def overflow? : Region → Nat → List Char → Option Container
  | _, _, [] => none
  | .escape, room, _ :: rest => overflow? .string room rest
  | .string, room, c :: rest =>
    if c == '\\' then overflow? .escape room rest
    else if c == '\x22' then overflow? .outside room rest
    else overflow? .string room rest
  | .outside, room, c :: rest =>
    if c == '\x22' then overflow? .string room rest
    else if c == ']' || c == '\x7d' then overflow? .outside (room + 1) rest
    else
      match Container.ofBracket? c, room with
      | some container, 0 => some container
      | some _, room + 1 => overflow? .outside room rest
      | none, room => overflow? .outside room rest

/-- The part of a text that has been read when the reader is done. -/
def seen (text : List Char) : Except Fault Value → List Char
  | .ok _ => text
  | .error fault => text.take (text.length - fault.remaining)

/-- The bracket of a text for which the reader has no room, if it comes to one. -/
def tooDeep? (room : Nat) (text : List Char) : Option Container :=
  overflow? .outside room (seen text (readAll text))

/-- Why a text is not read with some room. -/
inductive ReadFailure where
  | malformed (error : ReadError)
  | tooDeep (container : Container)

def ReadFailure.message : ReadFailure → String
  | .malformed error => error.message
  | .tooDeep container => container.tooDeep

/-- The value of a whole text, if the reader has room for the depth of its brackets. -/
def readWithin (room : Nat) (text : List Char) : Except ReadFailure Value :=
  match tooDeep? room text with
  | some container => .error (.tooDeep container)
  | none => (read text).mapError .malformed

/-- The room of an interpreter with its usual limit of a thousand calls, some of which it is in already. -/
def usualRoom : Nat := 950

end ProjectGauge.Json
