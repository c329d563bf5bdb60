/-!
# Decimal numerals

Whole numbers as decimal text, written without leading zeros, and the value of a run of digits.
-/

namespace ProjectGauge.Text

/-- The decimal digits of a natural number. -/
def natDigits (n : Nat) : List Char :=
  Nat.toDigits 10 n

/-- The decimal text of an integer, with a minus sign in front of a negative one. -/
def intText (n : Int) : List Char :=
  if n < 0 then '-' :: natDigits n.natAbs else natDigits n.natAbs

/-- The decimal text of an integer as a string. -/
def intString (n : Int) : String :=
  String.ofList (intText n)

/-- The value of a run of ASCII digits, read from the left. -/
def digitsValue (digits : List Char) : Nat :=
  digits.foldl (fun value c => 10 * value + (c.toNat - '0'.toNat)) 0

/-- An integer of more digits than this has no decimal text and is not read from one. -/
def digitLimit : Nat := 4300

/-- The wording for an integer of more digits than are written. -/
def tooManyDigitsMessage : String :=
  "Exceeds the limit (4300 digits) for integer string conversion; " ++
    "use sys.set_int_max_str_digits() to increase the limit"

/-- The wording for a numeral of more digits than are read. -/
def digitLimitMessage (count : Nat) : String :=
  "Exceeds the limit (4300 digits) for integer string conversion: value has " ++
    intString count ++ " digits; use sys.set_int_max_str_digits() to increase the limit"

end ProjectGauge.Text
