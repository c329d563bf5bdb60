import ProjectGauge.Text.Decimal

/-!
# Numerals from outside

A plain numeral is a minus sign or none and digits without a needless zero in front. A numeral from
outside may also have white space around it, a plus sign, zeros in front, single underscores between its
digits, and a point with nothing but zeros behind it.

* `readPlain` reads a plain numeral.
* `readInteger` reads a numeral from outside: as it stands if it is plain, and otherwise cleaned.
-/

namespace ProjectGauge.Text

/-- Why a text is no numeral. -/
inductive NumeralError where
  | unreadable
  | tooLong
  deriving DecidableEq

/-! ## Plain numerals -/

/-- The plain numeral of digits behind a number of signs, which counts as one more digit. -/
def readPlainDigits (signs : Nat) (text : List Char) : Except NumeralError Nat :=
  let digits := text.takeWhile Char.isDigit
  match digits with
  | [] => .error .unreadable
  | '0' :: _ :: _ => .error .unreadable
  | _ =>
    if digitLimit < signs + digits.length then .error .tooLong
    else if digits.length < text.length then .error .unreadable
    else .ok (digitsValue digits)

def readPlain : List Char → Except NumeralError Int
  | '-' :: digits => (readPlainDigits 1 digits).map fun n => -(n : Int)
  | digits => (readPlainDigits 0 digits).map fun n => (n : Int)

/-! ## Cleaning -/

/-- White space around a numeral: the blanks without the four separators of ASCII. -/
def isNumeralSpace (c : Char) : Bool :=
  c == ' ' || ('\t' ≤ c && c ≤ '\r') || c == '\x85' || c == '\xa0' || c == '\u1680' ||
    ('\u2000' ≤ c && c ≤ '\u200a') || c == '\u2028' || c == '\u2029' || c == '\u202f' ||
    c == '\u205f' || c == '\u3000'

/-- A text without the white space at its ends. -/
def trimNumeral (text : List Char) : List Char :=
  ((text.dropWhile isNumeralSpace).reverse.dropWhile isNumeralSpace).reverse

/-- What is behind zeros, given the last of them: a digit or a minus sign ends them, and in front of a
point or at the end one stays. Underscores may stand among them. -/
def behindZeros (last : Char) : List Char → Option (List Char)
  | [] => some [last]
  | c :: rest =>
    if c == '0' || c == '_' then behindZeros c rest
    else if c.isDigit || c == '-' then some (c :: rest)
    else if c == '.' then some (last :: c :: rest)
    else none

/-- Digits without the zeros in front of them. -/
def dropLeadingZeros : List Char → Option (List Char)
  | [] => none
  | c :: rest =>
    if c == '0' then behindZeros c rest
    else if c.isDigit then some (c :: rest)
    else none

/-- The text in front of a point that has zeros and nothing else behind it. -/
def dropZeroFraction (text : List Char) : List Char :=
  match text.dropWhile (· != '.') with
  | _ :: fraction =>
    if !fraction.isEmpty && fraction.all (· == '0') then text.takeWhile (· != '.') else text
  | [] => text

/-- No two underscores stand side by side. -/
def singleUnderscores : List Char → Bool
  | '_' :: '_' :: _ => false
  | _ :: rest => singleUnderscores rest
  | [] => true

/-- The digits without the single underscores between them. -/
def dropUnderscores (text : List Char) : List Char :=
  if text.head? == some '_' || text.getLast? == some '_' || !singleUnderscores text then text
  else text.filter (· != '_')

/-- Digits without what a plain numeral may not have. -/
def cleanDigits (text : List Char) : Option (List Char) :=
  (dropLeadingZeros text).map fun digits => dropUnderscores (dropZeroFraction digits)

/-- A numeral without what a plain numeral may not have. -/
def cleanNumeral (text : List Char) : Option (List Char) :=
  match trimNumeral text with
  | '-' :: digits => (cleanDigits digits).map ('-' :: ·)
  | '+' :: digits => cleanDigits digits
  | digits => cleanDigits digits

/-! ## Reading -/

def readInteger (text : List Char) : Except NumeralError Int :=
  match readPlain text with
  | .error .unreadable =>
    match cleanNumeral text with
    | some plain => readPlain plain
    | none => .error .unreadable
  | result => result

end ProjectGauge.Text
