import ProjectGauge.Json.Value
import ProjectGauge.Number.Shortest
import ProjectGauge.Text.Quoted

/-!
# Writing JSON text

Everything outside printable ASCII is written by its UTF-16 code units in four lower-case
hexadecimal digits, so that the text is ASCII. `Value.compact` writes on one line; `Value.indented`
writes every item and member on a line of its own, two spaces deeper than its container.
-/

namespace ProjectGauge.Json

def unitEscape (unit : Nat) : List Char :=
  '\\' :: 'u' :: Text.hexDigits 4 unit

/-- A character between the quotes of a string. -/
def encodeChar (c : Char) : List Char :=
  if c == '\x22' then ['\\', '\x22']
  else if c == '\\' then ['\\', '\\']
  else if c == '\n' then ['\\', 'n']
  else if c == '\r' then ['\\', 'r']
  else if c == '\t' then ['\\', 't']
  else if c == '\x0c' then ['\\', 'f']
  else if c == '\x08' then ['\\', 'b']
  else if 0x20 ≤ c.toNat && c.toNat ≤ 0x7E then [c]
  else if c.toNat < 0x10000 then unitEscape c.toNat
  else
    let offset := c.toNat - 0x10000
    unitEscape (0xD800 + offset / 0x400) ++ unitEscape (0xDC00 + offset % 0x400)

def encodeString (text : List Char) : List Char :=
  '\x22' :: text.flatMap encodeChar ++ ['\x22']

/-- A binary64 number as JSON writes it. -/
def encodeReal : Binary64 → List Char
  | .nan => "NaN".toList
  | .infinite negative => (if negative then "-Infinity" else "Infinity").toList
  | x => x.text

/-- The text of a value that holds no other values. -/
def encodeScalar : Value → List Char
  | .null => "null".toList
  | .bool b => (if b then "true" else "false").toList
  | .int n => Text.intText n
  | .real x => encodeReal x
  | .text s => encodeString s.toList
  | .array _ => "[]".toList
  | .object _ => ['\x7b', '\x7d']

mutual

/-- A value on one line, with a space behind commas and colons. -/
def Value.compact : Value → List Char
  | .array items => '[' :: compactItems items ++ [']']
  | .object members => '\x7b' :: compactMembers members ++ ['\x7d']
  | scalar => encodeScalar scalar

def compactItems : List Value → List Char
  | [] => []
  | [item] => item.compact
  | item :: rest => item.compact ++ ',' :: ' ' :: compactItems rest

/-- The members of an object on one line. -/
def compactMembers : List (String × Value) → List Char
  | [] => []
  | [(name, item)] => encodeString name.toList ++ ':' :: ' ' :: item.compact
  | (name, item) :: rest =>
    encodeString name.toList ++ ':' :: ' ' :: item.compact ++ ',' :: ' ' :: compactMembers rest

end

def lineBreak (depth : Nat) : List Char :=
  '\n' :: List.replicate (2 * depth) ' '

mutual

/-- A value whose items and members stand on lines of their own, inside the given depth. -/
def Value.indented (depth : Nat) : Value → List Char
  | .array (item :: rest) =>
    '[' :: lineBreak (depth + 1) ++ item.indented (depth + 1) ++ indentedItems (depth + 1) rest ++
      lineBreak depth ++ [']']
  | .object ((name, item) :: rest) =>
    '\x7b' :: lineBreak (depth + 1) ++ encodeString name.toList ++ ':' :: ' ' ::
      item.indented (depth + 1) ++ indentedMembers (depth + 1) rest ++ lineBreak depth ++ ['\x7d']
  | scalar => encodeScalar scalar

/-- The further items of a list, each behind a comma and a line break. -/
def indentedItems (depth : Nat) : List Value → List Char
  | [] => []
  | item :: rest => ',' :: lineBreak depth ++ item.indented depth ++ indentedItems depth rest

/-- The further members of an object, each behind a comma and a line break. -/
def indentedMembers (depth : Nat) : List (String × Value) → List Char
  | [] => []
  | (name, item) :: rest =>
    ',' :: lineBreak depth ++ encodeString name.toList ++ ':' :: ' ' :: item.indented depth ++
      indentedMembers depth rest

end

end ProjectGauge.Json
