import ProjectGauge.Json.Value
import ProjectGauge.Number.Shortest
import ProjectGauge.Text.Surrogate

/-!
# Reading JSON text

The reader accepts the JSON grammar with three more constants, `NaN`, `Infinity` and `-Infinity`.
A number with a fraction or an exponent is binary64, any other is an exact integer. A name that
occurs again in an object replaces the value of its first occurrence.

A fault is kept with the number of characters that remain at its place, so that the readers of the
parts need no position; `Json.read` turns it into an offset, a line and a column.

Two things are left out here. A text may nest as deep as it likes, where the interpreter has room for
a number of calls only; `Json.readWithin` has that limit. And the texts that are read are of characters,
so that names which differ in surrogates without partners alone become the same (see `Text.joinPairs`).
-/

namespace ProjectGauge.Json

/-! ## Faults -/

/-- What is wrong at a place of a text. -/
inductive Reason where
  | byteOrderMark
  | expectingValue
  | expectingName
  | expectingColon
  | expectingComma
  | extraData
  | unterminatedString
  | controlCharacter
  | badEscape
  | badUnicodeEscape
  | tooManyDigits (count : Nat)
  deriving DecidableEq

/-- The wording of a reason. -/
def Reason.message : Reason → String
  | .byteOrderMark => "Unexpected UTF-8 BOM (decode using utf-8-sig)"
  | .expectingValue => "Expecting value"
  | .expectingName => "Expecting property name enclosed in double quotes"
  | .expectingColon => "Expecting ':' delimiter"
  | .expectingComma => "Expecting ',' delimiter"
  | .extraData => "Extra data"
  | .unterminatedString => "Unterminated string starting at"
  | .controlCharacter => "Invalid control character at"
  | .badEscape => "Invalid \\escape"
  | .badUnicodeEscape => "Invalid \\uXXXX escape"
  | .tooManyDigits count => Text.digitLimitMessage count

/-- A reason with the number of characters that remain where it arose. -/
structure Fault where
  reason : Reason
  remaining : Nat
  deriving DecidableEq

/-- A reason with its offset, counted from zero, and its line and column, counted from one. -/
structure ReadError where
  reason : Reason
  offset : Nat
  line : Nat
  column : Nat
  deriving DecidableEq

/-- The fault of a reason at the start of the given rest. -/
def faultAt (reason : Reason) (rest : List Char) : Except Fault α :=
  .error ⟨reason, rest.length⟩

/-- A fault placed in the whole text. -/
def Fault.locate (text : List Char) (fault : Fault) : ReadError :=
  let offset := text.length - fault.remaining
  let before := text.take offset
  ⟨fault.reason, offset, before.count '\n' + 1, (before.reverse.takeWhile (· != '\n')).length + 1⟩

/-- The wording of a read error: too long a number is reported without a place. -/
def ReadError.message (e : ReadError) : String :=
  match e.reason with
  | .tooManyDigits _ => e.reason.message
  | reason =>
    reason.message ++ ": line " ++ Text.intString e.line ++ " column " ++ Text.intString e.column ++
      " (char " ++ Text.intString e.offset ++ ")"

/-! ## Tokens -/

/-- The four characters that may stand between tokens. -/
def isSpace (c : Char) : Bool :=
  c == ' ' || c == '\t' || c == '\n' || c == '\r'

/-- A text after its leading spaces. -/
def skipSpace (cs : List Char) : List Char :=
  cs.dropWhile isSpace

/-- The value of a hexadecimal digit of either case. -/
def hexValue? (c : Char) : Option Nat :=
  if c.isDigit then some (c.toNat - '0'.toNat)
  else if 'a' ≤ c && c ≤ 'f' then some (c.toNat - 'a'.toNat + 10)
  else if 'A' ≤ c && c ≤ 'F' then some (c.toNat - 'A'.toNat + 10)
  else none

/-- The code unit of four hexadecimal digits. -/
def codeUnit? (a b c d : Char) : Option Nat := do
  return ((← hexValue? a) * 16 + (← hexValue? b)) * 256 + (← hexValue? c) * 16 + (← hexValue? d)

/-- The character that a one-letter escape stands for. -/
def simpleEscape? (c : Char) : Option Char :=
  if c == '\x22' || c == '\\' || c == '/' then some c
  else if c == 'b' then some '\x08'
  else if c == 'f' then some '\x0c'
  else if c == 'n' then some '\n'
  else if c == 'r' then some '\r'
  else if c == 't' then some '\t'
  else none

/-- The code points of a string after its opening quote, surrogates included, and the text after
its closing quote. `opening` is the number of characters that remain at the opening quote. The four
digits of a code unit need a character behind them. -/
def stringTail (opening : Nat) : List Char → Except Fault (List Nat × List Char)
  | [] => .error ⟨.unterminatedString, opening⟩
  | '\\' :: [] => .error ⟨.unterminatedString, opening⟩
  | '\\' :: 'u' :: a :: b :: c :: d :: rest =>
    if rest.isEmpty then .error ⟨.badUnicodeEscape, rest.length + 5⟩
    else match codeUnit? a b c d with
      | none => .error ⟨.badUnicodeEscape, rest.length + 5⟩
      | some unit => do
        let (points, after) ← stringTail opening rest
        return (unit :: points, after)
  | '\\' :: 'u' :: rest => .error ⟨.badUnicodeEscape, rest.length + 1⟩
  | '\\' :: c :: rest =>
    match simpleEscape? c with
    | none => .error ⟨.badEscape, rest.length + 2⟩
    | some escaped => do
      let (points, after) ← stringTail opening rest
      return (escaped.toNat :: points, after)
  | c :: rest =>
    if c == '\x22' then .ok ([], rest)
    else if c.toNat < 0x20 then .error ⟨.controlCharacter, rest.length + 1⟩
    else do
      let (points, after) ← stringTail opening rest
      return (c.toNat :: points, after)

/-- The string after an opening quote, and the text after its closing quote. -/
def string (opening : Nat) (cs : List Char) : Except Fault (String × List Char) := do
  let (points, after) ← stringTail opening cs
  return (String.ofList (Text.joinPairs points), after)

/-- The parts of a numeral: sign, integer digits, fraction digits and exponent. -/
structure Numeral where
  negative : Bool
  whole : List Char
  fraction : List Char
  exponent : Option Int

/-- The value of a numeral: exact without fraction and exponent, and binary64 with one. -/
def Numeral.value (n : Numeral) (rest : List Char) : Except Fault Value :=
  if n.fraction.isEmpty && n.exponent.isNone then
    if Text.digitLimit < n.whole.length then faultAt (.tooManyDigits n.whole.length) rest
    else
      let magnitude : Int := Text.digitsValue n.whole
      .ok (.int (if n.negative then -magnitude else magnitude))
  else
    let digits := Text.digitsValue (n.whole ++ n.fraction)
    .ok (.real (.ofDecimal n.negative digits (n.exponent.getD 0 - n.fraction.length)))

/-- The integer digits at the start of a text: a single zero, or a run that starts otherwise. -/
def wholePart (cs : List Char) : List Char × List Char :=
  match cs with
  | '0' :: rest => (['0'], rest)
  | _ => (cs.takeWhile Char.isDigit, cs.dropWhile Char.isDigit)

/-- The digits behind a point; a point without digits belongs to no numeral. -/
def fractionPart (cs : List Char) : List Char × List Char :=
  match cs with
  | '.' :: rest =>
    if (rest.takeWhile Char.isDigit).isEmpty then ([], cs)
    else (rest.takeWhile Char.isDigit, rest.dropWhile Char.isDigit)
  | _ => ([], cs)

/-- The exponent behind the letter `e`; a letter without digits belongs to no numeral. -/
def exponentPart (cs : List Char) : Option Int × List Char :=
  match cs with
  | c :: rest =>
    if c == 'e' || c == 'E' then
      let (negative, digits) := match rest with
        | '-' :: more => (true, more)
        | '+' :: more => (false, more)
        | more => (false, more)
      if (digits.takeWhile Char.isDigit).isEmpty then (none, cs)
      else
        let magnitude : Int := Text.digitsValue (digits.takeWhile Char.isDigit)
        (some (if negative then -magnitude else magnitude), digits.dropWhile Char.isDigit)
    else (none, cs)
  | [] => (none, cs)

/-- The number at the start of a text. -/
def number (cs : List Char) : Except Fault (Value × List Char) :=
  let (negative, unsigned) := match cs with
    | '-' :: rest => (true, rest)
    | _ => (false, cs)
  let (whole, afterWhole) := wholePart unsigned
  if whole.isEmpty then faultAt .expectingValue cs
  else
    let (fraction, afterFraction) := fractionPart afterWhole
    let (exponent, rest) := exponentPart afterFraction
    do return (← Numeral.value ⟨negative, whole, fraction, exponent⟩ rest, rest)

/-! ## Values -/

mutual

/-- The value at the start of a text, and the text after it. The fuel bounds the depth of calls;
twice the length of the text is enough. -/
def value : Nat → List Char → Except Fault (Value × List Char)
  | 0, cs => faultAt .expectingValue cs
  | fuel + 1, cs =>
    match cs with
    | 'n' :: 'u' :: 'l' :: 'l' :: rest => .ok (.null, rest)
    | 't' :: 'r' :: 'u' :: 'e' :: rest => .ok (.bool true, rest)
    | 'f' :: 'a' :: 'l' :: 's' :: 'e' :: rest => .ok (.bool false, rest)
    | 'N' :: 'a' :: 'N' :: rest => .ok (.real .nan, rest)
    | 'I' :: 'n' :: 'f' :: 'i' :: 'n' :: 'i' :: 't' :: 'y' :: rest => .ok (.real (.infinite false), rest)
    | '-' :: 'I' :: 'n' :: 'f' :: 'i' :: 'n' :: 'i' :: 't' :: 'y' :: rest =>
      .ok (.real (.infinite true), rest)
    | c :: rest =>
      if c == '\x22' then do
        let (text, after) ← string cs.length rest
        return (.text text, after)
      else if c == '[' then
        match skipSpace rest with
        | ']' :: after => .ok (.array [], after)
        | start => do
          let (items, after) ← items fuel start
          return (.array items, after)
      else if c == '\x7b' then
        match skipSpace rest with
        | '\x7d' :: after => .ok (.object [], after)
        | start => do
          let (members, after) ← members fuel [] start
          return (.object members, after)
      else number cs
    | [] => faultAt .expectingValue cs

/-- The items of a list from the start of one of them to the closing bracket. -/
def items : Nat → List Char → Except Fault (List Value × List Char)
  | 0, cs => faultAt .expectingValue cs
  | fuel + 1, cs => do
    let (item, after) ← value fuel cs
    match skipSpace after with
    | ']' :: rest => return ([item], rest)
    | ',' :: rest => do
      let (more, rest) ← items fuel (skipSpace rest)
      return (item :: more, rest)
    | rest => faultAt .expectingComma rest

/-- The members of an object from the start of a name to the closing brace, added to those that
stand before them. -/
def members : Nat → List (String × Value) → List Char →
    Except Fault (List (String × Value) × List Char)
  | 0, _, cs => faultAt .expectingName cs
  | fuel + 1, known, cs =>
    match cs with
    | '\x22' :: rest => do
      let (name, after) ← string cs.length rest
      match skipSpace after with
      | ':' :: rest => do
        let (item, after) ← value fuel (skipSpace rest)
        let known := put name item known
        match skipSpace after with
        | '\x7d' :: rest => return (known, rest)
        | ',' :: rest => members fuel known (skipSpace rest)
        | rest => faultAt .expectingComma rest
      | rest => faultAt .expectingColon rest
    | _ => faultAt .expectingName cs

end

def readAll (text : List Char) : Except Fault Value :=
  match text with
  | '\uFEFF' :: _ => faultAt .byteOrderMark text
  | _ => do
    let (result, after) ← value (2 * text.length + 2) (skipSpace text)
    match skipSpace after with
    | [] => return result
    | rest => faultAt .extraData rest

/-- The value of a whole text, or the place and the reason of the first fault. -/
def read (text : List Char) : Except ReadError Value :=
  (readAll text).mapError (·.locate text)

end ProjectGauge.Json
