import ProjectGauge.Console.Style.Literal.Simple
import ProjectGauge.Text.Blank

/-!
# Literals

A literal is a simple one, a number with a sign, a sum that makes a complex number, or a tuple, a set or
a table of literals. Sets and tables are neither items of a set nor keys of a table.

* `isLiteral` tells whether a text is a literal.
* `handlerParameters` is the literal in the parameters of a handler.
-/

namespace ProjectGauge.Console
namespace Literal

/-! ## Parts -/

/-- Brackets that may be open at a time. -/
def bracketLimit : Nat := 200

/-- The empty set, if a pair of parentheses follows its word behind a number of open brackets. -/
def callSet (brackets : Nat) : Literal × List Char → Option (Literal × List Char)
  | (.setWord, rest) =>
    match skipBlanks (brackets != 0) false rest with
    | '(' :: inner =>
      match skipBlanks true false inner with
      | ')' :: rest => if brackets < bracketLimit then some (.changeable, rest) else none
      | _ => none
    | _ => some (.setWord, rest)
  | result => some result

mutual

/-- A literal behind a number of open brackets, or the word of the empty set, and the text behind it.
The depth of its parts is limited. -/
def readLiteral : Nat → Nat → List Char → Option (Literal × List Char)
  | 0, _, _ => none
  | depth + 1, brackets, text => do
    let skip := skipBlanks (brackets != 0) false
    let (left, rest) ← readSigned depth brackets (skip text)
    let rest := skip rest
    if rest.head? == some '+' || rest.head? == some '-' then
      let (right, rest) ← readPart depth brackets (skip (rest.drop 1))
      return (← left.sum? right, skip rest)
    else return (left, rest)

/-- A literal that may have a sign, and the text behind it. -/
def readSigned : Nat → Nat → List Char → Option (Literal × List Char)
  | 0, _, _ => none
  | depth + 1, brackets, text => do
    if text.head? == some '+' || text.head? == some '-' then
      let (part, rest) ← readPart depth brackets (skipBlanks (brackets != 0) false (text.drop 1))
      return (← part.signed?, rest)
    else readPart depth brackets text

/-- A literal without a sign, and the text behind it. -/
def readPart : Nat → Nat → List Char → Option (Literal × List Char)
  | 0, _, _ => none
  | depth + 1, brackets, text =>
    match text with
    | '(' :: rest =>
      if brackets < bracketLimit then
        (readTuple depth (brackets + 1) (skipBlanks true false rest)).bind (callSet brackets)
      else none
    | '\x7b' :: rest =>
      if brackets < bracketLimit then readTable depth (brackets + 1) (skipBlanks true false rest)
      else none
    | _ => (readSimple (brackets != 0) text).bind (callSet brackets)

/-- What is in parentheses behind the opening one: one literal, or a tuple. -/
def readTuple : Nat → Nat → List Char → Option (Literal × List Char)
  | 0, _, _ => none
  | depth + 1, brackets, text => do
    if text.head? == some ')' then return (.key, text.drop 1)
    let (first, rest) ← readLiteral depth brackets text
    if rest.head? == some ')' then return (first, rest.drop 1)
    let (others, rest) ← readItems depth brackets ')' rest
    return (← tuple (first :: others), rest)

/-- What is in braces behind the opening one: a table, or a set. -/
def readTable : Nat → Nat → List Char → Option (Literal × List Char)
  | 0, _, _ => none
  | depth + 1, brackets, text => do
    if text.head? == some '\x7d' then return (.changeable, text.drop 1)
    let (first, rest) ← readLiteral depth brackets text
    if !first.isKey then none
    else if rest.head? == some ':' then
      let (value, rest) ← readLiteral depth brackets (rest.drop 1)
      if !value.isValue then none
      else return (.changeable, ← readMembers depth brackets rest)
    else
      let (others, rest) ← readItems depth brackets '\x7d' rest
      if others.all isKey then return (.changeable, rest) else none

/-- Further items behind a comma each, up to a closing bracket. A comma may stand in front of it. -/
def readItems : Nat → Nat → Char → List Char → Option (List Literal × List Char)
  | 0, _, _, _ => none
  | depth + 1, brackets, close, text => do
    if text.head? == some close then return ([], text.drop 1)
    else if text.head? != some ',' then none
    else
      let rest := skipBlanks true false (text.drop 1)
      if rest.head? == some close then return ([], rest.drop 1)
      else
        let (item, rest) ← readLiteral depth brackets rest
        let (others, rest) ← readItems depth brackets close rest
        return (item :: others, rest)

/-- The text behind further members of a table. -/
def readMembers : Nat → Nat → List Char → Option (List Char)
  | 0, _, _ => none
  | depth + 1, brackets, text => do
    if text.head? == some '\x7d' then return text.drop 1
    else if text.head? != some ',' then none
    else
      let rest := skipBlanks true false (text.drop 1)
      if rest.head? == some '\x7d' then return rest.drop 1
      else
        let (name, rest) ← readLiteral depth brackets rest
        if !name.isKey || rest.head? != some ':' then none
        else
          let (value, rest) ← readLiteral depth brackets (rest.drop 1)
          if !value.isValue then none else readMembers depth brackets rest

end

/-- A text is at its end but for blanks and remarks. -/
def isOver (text : List Char) : Bool :=
  (skipBlanks true false text).isEmpty

/-- A text is a literal, or a tuple of them without parentheses, when there may be a number of
items. -/
def isList (depth : Nat) : Nat → List Char → Bool
  | 0, _ => false
  | count + 1, text =>
    match readLiteral depth 0 text with
    | some (literal, rest) =>
      literal.isValue &&
        (isOver rest || (rest.head? == some ',' &&
          (isOver (rest.drop 1) || isList depth count (rest.drop 1))))
    | none => false

end Literal

def isLiteral (text : List Char) : Bool :=
  Literal.isList (4 * (text.length + 1)) (text.length + 1) (Literal.skipBlanks true false text)

/-! ## Handlers -/

/-- The parameters of a handler, which may have a name in front of parentheses. A name alone stands for
the empty tuple. -/
def handlerParameters (text : List Char) : List Char :=
  let text := Text.stripBlanks text
  let arguments := text.dropWhile fun c => Text.isWord c || c == '.'
  if arguments.isEmpty then "()".toList
  else if arguments.head? == some '(' && arguments.getLast? == some ')' &&
      !arguments.contains '\n' then arguments
  else text

end ProjectGauge.Console
