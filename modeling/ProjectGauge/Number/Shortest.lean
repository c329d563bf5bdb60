import ProjectGauge.Number.Binary64
import ProjectGauge.Text.Decimal

/-!
# Decimal text of binary64 numbers

* `Binary64.shortest?` gives the fewest significant digits that read back as the number, and of
  those the nearest to it.
* `Binary64.text` lays these digits out: positionally for decimal exponents from -4 to 15 and with
  an exponent of at least two digits beyond.
* `Binary64.fixed` writes a given number of decimal places of the exact value, a half going to the
  even neighbour.
-/

namespace ProjectGauge.Binary64

/-! ## Reading -/

/-- Ten to an integer power. -/
def tenPow (exponent : Int) : Rat :=
  (10 : Rat) ^ exponent

/-- The number nearest to `digits · 10 ^ exponent`. Magnitudes far outside the range are settled
by their decimal order alone. -/
def ofDecimal (negative : Bool) (digits : Nat) (exponent : Int) : Binary64 :=
  if digits = 0 then .finite negative 0
  else
    let order := exponent + (Text.natDigits digits).length
    if 310 < order then .infinite negative
    else if order < -330 then .finite negative 0
    else nearest negative ((digits : Rat) * tenPow exponent)

/-! ## Shortest digits -/

/-- The exponent of the greatest power of ten that does not exceed a positive rational. -/
def floorLog10 (q : Rat) : Int :=
  let estimate : Int := ((Text.natDigits q.num.natAbs).length : Int) - (Text.natDigits q.den).length
  if tenPow estimate ≤ q then estimate else estimate - 1

/-- Significant digits: an integer and the power of ten that scales it. -/
structure Digits where
  significand : Nat
  exponent : Int
  deriving DecidableEq

def Digits.value (d : Digits) : Rat :=
  (d.significand : Rat) * tenPow d.exponent

def Digits.readsBack (d : Digits) (magnitude : Rat) : Bool :=
  nearest false d.value == .finite false magnitude

/-- The digits of a given count around a magnitude that read back as it, the nearer ones first;
at equal distance the even ones. -/
def candidate? (magnitude : Rat) (count : Nat) : Option Digits :=
  let exponent := floorLog10 magnitude - (count : Int) + 1
  let low := (magnitude / tenPow exponent).floor.toNat
  let below : Digits := ⟨low, exponent⟩
  let above : Digits := ⟨low + 1, exponent⟩
  let nearer := roundHalfEven (magnitude / tenPow exponent)
  let order := if nearer.toNat = low then [below, above] else [above, below]
  order.find? (·.readsBack magnitude)

/-- The fewest digits that read back as a positive magnitude. -/
def shortest? (magnitude : Rat) : Option Digits :=
  (List.range 17).findSome? fun count => candidate? magnitude (count + 1)

/-! ## Layout -/

/-- Where positional notation ends and how an exponent is written. -/
structure Layout where
  leastPositional : Int
  greatestPositional : Int
  exponentWidth : Nat

/-- Positional from `0.0001` up to sixteen integer digits; exponents have two digits at least. -/
def Layout.standard : Layout := ⟨-4, 15, 2⟩

/-- A text with zeros in front up to a width. -/
def padZeros (width : Nat) (digits : List Char) : List Char :=
  List.replicate (width - digits.length) '0' ++ digits

/-- The digits without the zeros at the end, but never none. -/
def trimZeros (digits : List Char) : List Char :=
  match (digits.reverse.dropWhile (· == '0')).reverse with
  | [] => ['0']
  | kept => kept

/-- Digits with the point after the first `point` of them, in positional notation. -/
def positional (digits : List Char) (point : Int) : List Char :=
  if point ≤ 0 then
    ['0', '.'] ++ List.replicate point.natAbs '0' ++ digits
  else if digits.length ≤ point.toNat then
    digits ++ List.replicate (point.toNat - digits.length) '0' ++ ['.', '0']
  else
    digits.take point.toNat ++ '.' :: digits.drop point.toNat

def scientific (layout : Layout) (digits : List Char) (exponent : Int) : List Char :=
  let mantissa := match digits with
    | [] => []
    | [d] => [d]
    | d :: rest => d :: '.' :: rest
  let sign := if exponent < 0 then '-' else '+'
  mantissa ++ 'e' :: sign :: padZeros layout.exponentWidth (Text.natDigits exponent.natAbs)

/-- Significant digits laid out as a numeral. -/
def Digits.layOut (layout : Layout) (d : Digits) : List Char :=
  let all := Text.natDigits d.significand
  let exponent := d.exponent + (all.length : Int) - 1
  let digits := trimZeros all
  if layout.leastPositional ≤ exponent && exponent ≤ layout.greatestPositional then
    positional digits (exponent + 1)
  else
    scientific layout digits exponent

/-- A minus sign in front of a negative numeral. -/
def withSign (negative : Bool) (digits : List Char) : List Char :=
  if negative then '-' :: digits else digits

/-- The shortest text of a number in the standard layout. -/
def text : Binary64 → List Char
  | .nan => "nan".toList
  | .infinite s => withSign s "inf".toList
  | .finite s q =>
    if q = 0 then withSign s "0.0".toList
    else match shortest? q with
      | some d => withSign s (d.layOut .standard)
      | none => []

/-! ## Fixed places -/

/-- The text with a fixed number of decimal places. -/
def fixed (places : Nat) : Binary64 → List Char
  | .nan => "nan".toList
  | .infinite s => withSign s "inf".toList
  | .finite s q =>
    let scaled := (roundHalfEven (q * tenPow (places : Int))).toNat
    let digits := padZeros (places + 1) (Text.natDigits scaled)
    let point := digits.length - places
    withSign s (digits.take point ++ (if places = 0 then [] else '.' :: digits.drop point))

end ProjectGauge.Binary64
