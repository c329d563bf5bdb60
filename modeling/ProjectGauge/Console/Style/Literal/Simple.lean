import ProjectGauge.Script.Escape
import ProjectGauge.Text.Decimal
import ProjectGauge.Text.Word

/-!
# Simple literals

A simple literal has no parts: a number, texts side by side, or a constant. Of its value nothing is kept
but how it may be combined.

* `Literal.readSimple` reads a simple literal.
-/

namespace ProjectGauge.Console

/-- What matters of a literal. -/
inductive Literal where
  | number (isImaginary hasSign : Bool)
  /-- Another one that may be a key. -/
  | key
  /-- A set or a table, or what holds one. -/
  | changeable
  /-- The word that a pair of parentheses makes the empty set. -/
  | setWord
  deriving DecidableEq

namespace Literal

def isValue (literal : Literal) : Bool :=
  literal != setWord

def isKey : Literal → Bool
  | number _ _ => true
  | key => true
  | _ => false

def tuple (items : List Literal) : Option Literal :=
  if !items.all isValue then none else if items.all isKey then some key else some changeable

/-- A number with a sign in front of it. -/
def signed? : Literal → Option Literal
  | number isImaginary false => some (number isImaginary true)
  | _ => none

/-- The sum of a real number and an imaginary one without a sign. -/
def sum? : Literal → Literal → Option Literal
  | number false _, number true false => some key
  | _, _ => none

/-! ## Blanks -/

/-- The text behind blanks and remarks. In brackets line feeds are blanks. -/
def skipBlanks (inBrackets inRemark : Bool) : List Char → List Char
  | [] => []
  | '\\' :: '\n' :: rest =>
    if inRemark && !inBrackets then '\n' :: rest else skipBlanks inBrackets false rest
  | c :: rest =>
    if c == '\n' then
      if inBrackets then skipBlanks inBrackets false rest else c :: rest
    else if inRemark then skipBlanks inBrackets true rest
    else if c == '#' then skipBlanks inBrackets true rest
    else if c == ' ' || c == '\t' || c == '\x0c' then skipBlanks inBrackets false rest
    else c :: rest

/-! ## Numbers -/

/-- Digits with single underscores between them, and the text behind them. -/
def digitRun (isDigit : Char → Bool) : List Char → List Char × List Char
  | [] => ([], [])
  | c :: rest =>
    if isDigit c then
      let (digits, rest) := digitRun isDigit rest
      (c :: digits, rest)
    else if c == '_' && rest.head?.any isDigit then digitRun isDigit rest
    else ([], c :: rest)

/-- The text behind a number to a base, given that behind its mark. -/
def readBased (isDigit : Char → Bool) (text : List Char) : Option (List Char) :=
  let (digits, rest) := digitRun isDigit text
  if digits.isEmpty then none else some rest

/-- The text behind a point with its digits, if there is one. -/
def readPoint? : List Char → Option (List Char)
  | '.' :: rest =>
    some (if rest.head?.any Char.isDigit then (digitRun Char.isDigit rest).2 else rest)
  | _ => none

/-- The text behind an exponent, if there is one. -/
def readPower? : List Char → Option (List Char)
  | c :: rest =>
    if c == 'e' || c == 'E' then
      let digits := if rest.head? == some '+' || rest.head? == some '-' then rest.drop 1 else rest
      if digits.head?.any Char.isDigit then some (digitRun Char.isDigit digits).2 else none
    else none
  | [] => none

/-- The digits of an integer do not start with a needless zero and are not too many. -/
def isWhole (digits : List Char) : Bool :=
  (digits.head? != some '0' || digits.all (· == '0')) && digits.length ≤ Text.digitLimit

/-- A decimal number and the text behind it. -/
def readDecimal (text : List Char) : Option (Literal × List Char) :=
  let (digits, rest) :=
    if text.head?.any Char.isDigit then digitRun Char.isDigit text else ([], text)
  let point := readPoint? rest
  let rest := point.getD rest
  let power := readPower? rest
  match power.getD rest with
  | c :: behind =>
    if c == 'j' || c == 'J' then some (.number true false, behind)
    else if point.isSome || power.isSome || isWhole digits then some (.number false false, c :: behind)
    else none
  | [] =>
    if point.isSome || power.isSome || isWhole digits then some (.number false false, []) else none

/-- A number and the text behind it. -/
def readNumber : List Char → Option (Literal × List Char)
  | '0' :: c :: rest =>
    if c == 'x' || c == 'X' then
      (readBased Script.isHexDigit rest).map fun rest => (.number false false, rest)
    else if c == 'o' || c == 'O' then
      (readBased Script.isOctalDigit rest).map fun rest => (.number false false, rest)
    else if c == 'b' || c == 'B' then
      (readBased (fun d => d == '0' || d == '1') rest).map fun rest => (.number false false, rest)
    else readDecimal ('0' :: c :: rest)
  | text => readDecimal text

/-! ## Texts -/

/-- How a text is quoted: whether its escapes mean nothing, whether it is one of bytes, its mark, and
whether it has three of them on each side. -/
structure Quotation where
  isRaw : Bool
  isBytes : Bool
  mark : Char
  isTriple : Bool

/-- The letters in front of a quoted text. -/
def quotationLetters : List (String × Bool × Bool) :=
  [("", false, false), ("u", false, false), ("r", true, false), ("b", false, true),
    ("br", true, true), ("rb", true, true)]

/-- The quotation that a text starts with, and the text behind its opening. -/
def quotation? (text : List Char) : Option (Quotation × List Char) :=
  let letters := text.takeWhile Char.isAlpha
  let small := String.ofList (letters.map Char.toLower)
  match quotationLetters.lookup small, text.drop letters.length with
  | some (isRaw, isBytes), mark :: rest =>
    if mark == '\x22' || mark == '\x27' then
      if [mark, mark].isPrefixOf rest then some (⟨isRaw, isBytes, mark, true⟩, rest.drop 2)
      else some (⟨isRaw, isBytes, mark, false⟩, rest)
    else none
  | _, _ => none

/-- A text starts with a number of hexadecimal digits of a code point. -/
def startsCode (count : Nat) (text : List Char) : Bool :=
  let digits := text.take count
  digits.length == count && digits.all Script.isHexDigit &&
    Script.numeralValue 16 digits ≤ Script.lastCodePoint

/-- A text starts with the name of a character in braces. Every name of letters, digits, spaces and
hyphens will do. -/
def startsName : List Char → Bool
  | '\x7b' :: rest =>
    let name := rest.takeWhile fun c => c.isAlphanum || c == ' ' || c == '-'
    !name.isEmpty && (rest.drop name.length).head? == some '\x7d'
  | _ => false

/-- An escape is complete, given what is behind its backslash. -/
def isEscape (isBytes : Bool) : List Char → Bool
  | 'x' :: rest => startsCode 2 rest
  | 'u' :: rest => isBytes || startsCode 4 rest
  | 'U' :: rest => isBytes || startsCode 8 rest
  | 'N' :: rest => isBytes || startsName rest
  | _ => true

/-- The text behind a quoted text, given that behind its opening. -/
def readQuoted (quotation : Quotation) : List Char → Option (List Char)
  | [] => none
  | '\\' :: c :: rest =>
    if quotation.isBytes && 0x80 ≤ c.toNat then none
    else if quotation.isRaw || isEscape quotation.isBytes (c :: rest) then readQuoted quotation rest
    else none
  | c :: rest =>
    if quotation.isBytes && 0x80 ≤ c.toNat then none
    else if c == quotation.mark then
      if !quotation.isTriple then some rest
      else if [c, c].isPrefixOf rest then some (rest.drop 2)
      else readQuoted quotation rest
    else if c == '\n' && !quotation.isTriple then none
    else readQuoted quotation rest

/-- The text behind quoted texts side by side, all of bytes or none, when there may be a number of
them. -/
def readTexts (inBrackets isBytes : Bool) : Nat → List Char → Option (List Char)
  | 0, _ => none
  | count + 1, text =>
    match quotation? text with
    | some (quotation, rest) =>
      if quotation.isBytes != isBytes then none
      else (readQuoted quotation rest).bind fun rest =>
        readTexts inBrackets isBytes count (skipBlanks inBrackets false rest)
    | none => some text

/-! ## Words -/

/-- The words for a truth value or for no value. -/
def constantWords : List String := ["True", "False", "None"]

def readWord (text : List Char) : Option (Literal × List Char) :=
  let word := String.ofList (text.takeWhile Text.isWord)
  let rest := text.dropWhile Text.isWord
  if constantWords.contains word then some (.key, rest)
  else if word == "set" then some (.setWord, rest)
  else none

/-- A literal without parts, and the text behind it. -/
def readSimple (inBrackets : Bool) (text : List Char) : Option (Literal × List Char) :=
  match quotation? text with
  | some (quotation, _) =>
    (readTexts inBrackets quotation.isBytes (text.length + 1) text).map fun rest => (.key, rest)
  | none =>
    if "...".toList.isPrefixOf text then some (.key, text.drop 3)
    else if text.head?.any Char.isDigit ||
        (text.head? == some '.' && (text.drop 1).head?.any Char.isDigit) then readNumber text
    else readWord text

end Literal
end ProjectGauge.Console
