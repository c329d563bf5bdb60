import ProjectGauge.Script.Space

/-!
# Escapes

A backslash in a word, a text or a template starts an escape. An escape is described by the number
of characters behind the backslash that belong to it, the code points that it stands for, and the
line breaks in it.

The code points of a text are put together by `Text.joinPairs`. In words and texts alike, a surrogate
without its partner is read as the replacement character, so that specifiers which differ in such
surrogates alone become the same.
-/

namespace ProjectGauge.Script

/-- What an escape takes and what it stands for. -/
structure Escape where
  length : Nat
  codes : List Nat
  lines : Nat

/-! ## Digits -/

/-- A hexadecimal digit. -/
def isHexDigit (c : Char) : Bool :=
  c.isDigit || ('a' ≤ c && c ≤ 'f') || ('A' ≤ c && c ≤ 'F')

def isOctalDigit (c : Char) : Bool :=
  '0' ≤ c && c ≤ '7'

def digitValue (c : Char) : Nat :=
  if c.isDigit then c.toNat - '0'.toNat
  else if 'a' ≤ c then c.toNat - 'a'.toNat + 10
  else c.toNat - 'A'.toNat + 10

def numeralValue (base : Nat) (digits : List Char) : Nat :=
  digits.foldl (fun value c => value * base + digitValue c) 0

/-! ## Numeric escapes -/

def lastCodePoint : Nat := 0x10ffff

/-- The value of a fixed number of hexadecimal digits at the front of a text. -/
def hexValue? (count : Nat) (text : List Char) : Option Nat :=
  let digits := text.take count
  if digits.length == count && digits.all isHexDigit then some (numeralValue 16 digits) else none

/-- The escape behind `u`: four digits, or any number of them in braces. -/
def unicodeEscape? : List Char → Option Escape
  | '\x7b' :: rest =>
    let digits := rest.takeWhile isHexDigit
    let value := numeralValue 16 digits
    if !digits.isEmpty && (rest.drop digits.length).head? == some '\x7d' && value ≤ lastCodePoint then
      some ⟨digits.length + 3, [value], 0⟩
    else none
  | text => (hexValue? 4 text).map fun value => ⟨5, [value], 0⟩

/-- The escape of two hexadecimal digits behind `x`. -/
def byteEscape? (text : List Char) : Option Escape :=
  (hexValue? 2 text).map fun value => ⟨3, [value], 0⟩

/-- The octal escape: up to three digits, up to two where the first is above three. -/
def octalEscape (text : List Char) : Escape :=
  let limit := if text.head?.any fun c => '4' ≤ c then 2 else 3
  let digits := (text.take limit).takeWhile isOctalDigit
  ⟨digits.length, [numeralValue 8 digits], 0⟩

/-- The length of the line break that starts with a character. -/
def breakLength (c : Char) (rest : List Char) : Nat :=
  if c == '\r' && rest.head? == some '\n' then 2 else 1

/-- The code point of a letter that stands for a control character. -/
def controlCode? : Char → Option Nat
  | 'n' => some 10
  | 'r' => some 13
  | 't' => some 9
  | 'b' => some 8
  | 'v' => some 11
  | 'f' => some 12
  | _ => none

/-- The escape of a quoted text behind its backslash. -/
def textEscape? : List Char → Option Escape
  | [] => none
  | 'u' :: rest => unicodeEscape? rest
  | 'x' :: rest => byteEscape? rest
  | c :: rest =>
    if isLineBreak c then some ⟨breakLength c rest, [], 1⟩
    else if isOctalDigit c then some (octalEscape (c :: rest))
    else some ⟨1, [(controlCode? c).getD c.toNat], 0⟩

/-- The escape of a template behind its backslash. Octal escapes are refused, and a `u` without its
digits stands for itself. -/
def templateEscape? : List Char → Option Escape
  | [] => none
  | 'u' :: '\x7b' :: rest => unicodeEscape? ('\x7b' :: rest)
  | 'u' :: rest => some ((unicodeEscape? rest).getD ⟨1, ['u'.toNat], 0⟩)
  | 'x' :: rest => byteEscape? rest
  | c :: rest =>
    if isLineBreak c then some ⟨breakLength c rest, [], 1⟩
    else if c == '0' then
      if rest.head?.any Char.isDigit then none else some ⟨1, [0], 0⟩
    else if isOctalDigit c then none
    else some ⟨1, [(controlCode? c).getD c.toNat], 0⟩

end ProjectGauge.Script
