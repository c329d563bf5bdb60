import ProjectGauge.Json.Value
import ProjectGauge.Number.Shortest
import ProjectGauge.Text.Quoted

/-!
# Literals

The literal of a value is its text in messages and in version fields: constants are capitalised,
texts are quoted, numbers are written in full or in their shortest form, and lists and tables are
written in brackets with a comma and a space between their items.

The interpreter makes a call for each level of a value that it writes out, and has room for so many
only. `Value.literal` is the literal as it is where there is room; who writes out a value of any
height asks for its `Value.height` or its `Value.plainHeight` first.
-/

namespace ProjectGauge.Json

/-- The literal of a truth value. -/
def boolLiteral (b : Bool) : List Char :=
  if b then "True".toList else "False".toList

mutual

def Value.literal : Value → List Char
  | .null => "None".toList
  | .bool b => boolLiteral b
  | .int n => Text.intText n
  | .real x => x.text
  | .text s => Text.quoted s.toList
  | .array items => '[' :: itemLiterals items ++ [']']
  | .object members => '\x7b' :: memberLiterals members ++ ['\x7d']

/-- The literals of the items of a list, separated by commas. -/
def itemLiterals : List Value → List Char
  | [] => []
  | [item] => item.literal
  | item :: rest => item.literal ++ ',' :: ' ' :: itemLiterals rest

/-- The literals of the members of a table, separated by commas. -/
def memberLiterals : List (String × Value) → List Char
  | [] => []
  | [(key, item)] => Text.quoted key.toList ++ ':' :: ' ' :: item.literal
  | (key, item) :: rest =>
    Text.quoted key.toList ++ ':' :: ' ' :: item.literal ++ ',' :: ' ' :: memberLiterals rest

end

def Value.literalString (value : Value) : String :=
  String.ofList value.literal

def Value.typeName : Value → String
  | .null => "NoneType"
  | .bool _ => "bool"
  | .int _ => "int"
  | .real _ => "float"
  | .text _ => "str"
  | .array _ => "list"
  | .object _ => "dict"

/-- The plain text of a value: a text itself, and the literal of anything else. -/
def Value.plain : Value → String
  | .text s => s
  | value => value.literalString

/-- How many calls the plain text of a value takes. A text is there already. -/
def Value.plainHeight : Value → Nat
  | .text _ => 0
  | value => value.height

/-- The wording of the failure to write out a value for which there is no room. -/
def literalTooDeep : String :=
  "maximum recursion depth exceeded while getting the repr of an object"

end ProjectGauge.Json
