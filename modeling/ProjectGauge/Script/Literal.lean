import ProjectGauge.Script.Escape
import ProjectGauge.Script.Token
import ProjectGauge.Text.Identifier
import ProjectGauge.Text.Surrogate

/-!
# Literals and words

Each reader takes the text from the start of a literal or word on and returns the text behind it, or
nothing if the literal is malformed.

* `readWord` reads a word and resolves its escapes.
* `readText` reads a quoted text and resolves its escapes.
* `readTemplate` reads a piece of a template up to its end or to a substitution.
* `readPattern` reads a regular expression with its flags.
* `readNumeral` reads a number.
-/

namespace ProjectGauge.Script

/-! ## Words -/

/-- The escape in a word behind its backslash. Four digits have to name a character that fits there;
what stands in braces is taken as it is. -/
def wordEscape? (fits : Char → Bool) : List Char → Option Escape
  | 'u' :: '\x7b' :: rest => unicodeEscape? ('\x7b' :: rest)
  | 'u' :: rest =>
    (unicodeEscape? rest).filter fun escape =>
      escape.codes.all fun code => Text.unitChar code != '\\' && fits (Text.unitChar code)
  | _ => none

/-- A word that holds escapes. A number of characters of the last one may still have to be passed
over. -/
def readEscapedWord : Nat → List Char → List Char → Option (List Char × List Char)
  | _, word, [] => some (word.reverse, [])
  | pending + 1, word, _ :: rest => readEscapedWord pending word rest
  | 0, word, c :: rest =>
    if c == '\\' then
      match wordEscape? (if word.isEmpty then Text.isIdentifierStart else Text.isIdentifierPart)
        rest with
      | some escape =>
        readEscapedWord escape.length ((escape.codes.map Text.unitChar).reverse ++ word) rest
      | none => none
    else if Text.isIdentifierPart c then readEscapedWord 0 (c :: word) rest
    else some (word.reverse, c :: rest)

/-- The word at the front of a text and the text behind it. -/
def readWord (text : List Char) : Option (List Char × List Char) :=
  let word := text.takeWhile Text.isIdentifierPart
  if word.contains '\\' then readEscapedWord 0 [] text
  else some (word, text.dropWhile Text.isIdentifierPart)

/-! ## Quoted texts -/

/-- A quoted text behind its opening mark: its value, the text behind it and the line breaks in
it. -/
def readText (quote : Char) :
    Nat → Nat → List Nat → List Char → Option (List Char × List Char × Nat)
  | _, _, _, [] => none
  | pending + 1, lines, codes, _ :: rest => readText quote pending lines codes rest
  | 0, lines, codes, c :: rest =>
    if c == quote then some (Text.joinPairs codes.reverse, rest, lines)
    else if c == '\\' then
      match textEscape? rest with
      | some escape =>
        readText quote escape.length (lines + escape.lines) (escape.codes ++ codes) rest
      | none => none
    else if isLineBreak c then none
    else readText quote 0 lines (c.toNat :: codes) rest

/-! ## Templates -/

/-- A piece of a template behind its opening mark: whether the template ends with it, the text behind
it and the line breaks in it. -/
def readTemplate : Nat → Nat → List Char → Option (Bool × List Char × Nat)
  | _, _, [] => none
  | pending + 1, lines, _ :: rest => readTemplate pending lines rest
  | 0, lines, '$' :: '\x7b' :: rest => some (false, rest, lines)
  | 0, lines, c :: rest =>
    if c == '\x60' then some (true, rest, lines)
    else if c == '\\' then
      match templateEscape? rest with
      | some escape => readTemplate escape.length (lines + escape.lines) rest
      | none => none
    else readTemplate 0 (lines + linesEnded c rest) rest

/-! ## Regular expressions -/

/-- The text behind the body of a regular expression, whose closing slash does not stand in a class
of characters. -/
def readPatternBody : Bool → List Char → Option (List Char)
  | _, [] => none
  | inClass, '\\' :: c :: rest => if isLineBreak c then none else readPatternBody inClass rest
  | inClass, c :: rest =>
    if isLineBreak c then none
    else if inClass then readPatternBody (c != ']') rest
    else if c == '/' then some rest
    else readPatternBody (c == '[') rest

/-- The text behind a regular expression and its flags. -/
def readPattern : List Char → Option (List Char)
  | '/' :: body => (readPatternBody false body).map (·.dropWhile Text.isIdentifierPart)
  | _ => none

/-! ## Numbers -/

/-- The text behind a number that has ended there: no word may follow at once. -/
def numeralEnd (text : List Char) : Option (List Char) :=
  if text.head?.any Text.isIdentifierStart then none else some text

/-- The end of a number without decimal digits, which may not follow at once. -/
def smallBaseEnd (text : List Char) : Option (List Char) :=
  if text.head?.any Char.isDigit then none else numeralEnd text

/-- The text behind a fraction. -/
def readFraction : List Char → List Char
  | '.' :: rest => rest.dropWhile Char.isDigit
  | text => text

/-- The text behind an exponent, which has a digit at least. -/
def readExponentDigits (text : List Char) : Option (List Char) :=
  if text.head?.any Char.isDigit then some (text.dropWhile Char.isDigit) else none

/-- The text behind an exponent if there is one. -/
def readExponent : List Char → Option (List Char)
  | c :: rest =>
    if c == 'e' || c == 'E' then
      match rest with
      | sign :: digits =>
        if sign == '+' || sign == '-' then readExponentDigits digits else readExponentDigits rest
      | [] => none
    else some (c :: rest)
  | [] => some []

/-- A decimal number and the text behind it. It is no exact integer, so it is never too long. -/
def readDecimal (text : List Char) : Option (Numeral × List Char) :=
  ((readExponent (readFraction (text.dropWhile Char.isDigit))).bind numeralEnd).map fun rest =>
    (⟨false, false⟩, rest)

/-- Digits to a base stand for an integer with too many decimal digits. -/
def isLongInteger (base : Nat) (digits : List Char) : Bool :=
  Text.digitLimit < 2 * digits.length && Nat.pow 10 Text.digitLimit ≤ numeralValue base digits

/-- An integer in digits to a base, of which there has to be one, and the text behind it. -/
def readInteger (base : Nat) (isDigit : Char → Bool) (ending : List Char → Option (List Char))
    (text : List Char) : Option (Numeral × List Char) :=
  let digits := text.takeWhile isDigit
  if digits.isEmpty then none
  else (ending (text.drop digits.length)).map fun rest => (⟨false, isLongInteger base digits⟩, rest)

/-- Digits behind a leading zero are octal unless one of them is above seven. -/
def isLeadingZeroOctal (text : List Char) : Bool :=
  text.head?.any isOctalDigit &&
    !(text.dropWhile isOctalDigit).head?.any fun c => c == '8' || c == '9'

/-- A number and the text behind it. -/
def readNumeral : List Char → Option (Numeral × List Char)
  | '0' :: c :: rest =>
    if c == 'x' || c == 'X' then readInteger 16 isHexDigit numeralEnd rest
    else if c == 'b' || c == 'B' then
      readInteger 2 (fun d => d == '0' || d == '1') smallBaseEnd rest
    else if c == 'o' || c == 'O' then readInteger 8 isOctalDigit smallBaseEnd rest
    else if isLeadingZeroOctal (c :: rest) then
      (readInteger 8 isOctalDigit smallBaseEnd (c :: rest)).map fun (number, rest) =>
        ({ number with isOctal := true }, rest)
    else readDecimal (c :: rest)
  | text => readDecimal text

end ProjectGauge.Script
