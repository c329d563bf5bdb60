import ProjectGauge.Text.Decimal

/-!
# Binary64 numbers

A binary64 number is a sign with an exact rational magnitude, an infinity, or not a number.
Zero keeps its sign. Every operation computes the exact result in the rationals and rounds it once
to the nearest representable magnitude, ties to the even one, so that the value of a result is
`nearest` of an exact expression.

* `Binary64.nearest` rounds a magnitude to 53 bits, with the spacing of the subnormals below
  `2 ^ (-1022)` and infinity from `2 ^ 1024` on.
* `Binary64.floor` is defined on the finite numbers only.
-/

namespace ProjectGauge

/-- A binary64 number. -/
inductive Binary64 where
  | finite (negative : Bool) (magnitude : Rat)
  | infinite (negative : Bool)
  | nan
  deriving DecidableEq, Inhabited

/-- Why a number has no integer or binary64 counterpart. -/
inductive NumberError where
  | nanToInteger
  | infinityToInteger
  | integerTooLarge
  | quotientTooLarge
  | tooManyDigits
  deriving DecidableEq

def NumberError.message : NumberError → String
  | .nanToInteger => "cannot convert float NaN to integer"
  | .infinityToInteger => "cannot convert float infinity to integer"
  | .integerTooLarge => "int too large to convert to float"
  | .quotientTooLarge => "integer division result too large for a float"
  | .tooManyDigits => Text.tooManyDigitsMessage

namespace Binary64

/-! ## Rounding -/

/-- The power of two with an integer exponent. -/
def twoPow (exponent : Int) : Rat :=
  (2 : Rat) ^ exponent

/-- The exponent of the greatest power of two that does not exceed a positive rational. -/
def floorLog2 (q : Rat) : Int :=
  let estimate : Int := (q.num.natAbs.log2 : Int) - (q.den.log2 : Int)
  if twoPow estimate ≤ q then estimate else estimate - 1

/-- The nearest integer; a half goes to the even neighbour. -/
def roundHalfEven (q : Rat) : Int :=
  let low := q.floor
  let excess := q - (low : Rat)
  if excess < 1 / 2 then low
  else if 1 / 2 < excess then low + 1
  else if low % 2 = 0 then low else low + 1

/-- The exponent of the distance between neighbouring numbers around a positive magnitude. -/
def gridExponent (q : Rat) : Int :=
  max (floorLog2 q - 52) (-1074)

/-- The first magnitude that is too large to be finite. -/
def overflowBound : Rat := twoPow 1024

/-- A magnitude rounded to 53 bits without regard to the greatest exponent. -/
def roundMagnitude (q : Rat) : Rat :=
  if q = 0 then 0
  else
    let grid := twoPow (gridExponent q)
    (roundHalfEven (q / grid) : Rat) * grid

/-- The number nearest to a magnitude with a sign, ties to even. -/
def nearest (negative : Bool) (magnitude : Rat) : Binary64 :=
  let rounded := roundMagnitude magnitude
  if rounded < overflowBound then .finite negative rounded else .infinite negative

/-- The number nearest to a rational; zero takes the sign that is given for it. -/
def ofRat (zeroSign : Bool) (q : Rat) : Binary64 :=
  if q = 0 then .finite zeroSign 0
  else if q < 0 then nearest true (-q)
  else nearest false q

/-! ## Values -/

/-- Positive zero. -/
def zero : Binary64 := .finite false 0

def half : Binary64 := .finite false (1 / 2)

/-- The exact value of a finite number. -/
def toRat? : Binary64 → Option Rat
  | .finite true q => some (-q)
  | .finite false q => some q
  | _ => none

/-- The sign, set for the negative numbers and for negative zero. -/
def isNegative : Binary64 → Bool
  | .finite negative _ => negative
  | .infinite negative => negative
  | .nan => false

/-- A number equal to zero, whatever its sign. -/
def isZero : Binary64 → Bool
  | .finite _ q => q == 0
  | _ => false

/-- A finite number without a fractional part. -/
def integer? (x : Binary64) : Option Int :=
  match x.toRat? with
  | some q => if q.den = 1 then some q.num else none
  | none => none

/-! ## Arithmetic -/

/-- The exact value of a sign and a magnitude. -/
def signed (negative : Bool) (q : Rat) : Rat :=
  if negative then -q else q

/-- The sum. An exact zero is negative only when both terms are. -/
def add : Binary64 → Binary64 → Binary64
  | .finite s p, .finite t q => ofRat (s && t) (signed s p + signed t q)
  | .finite .., .infinite t => .infinite t
  | .infinite s, .finite .. => .infinite s
  | .infinite s, .infinite t => if s = t then .infinite s else .nan
  | .nan, _ => .nan
  | _, .nan => .nan

/-- The number with the opposite sign. -/
def neg : Binary64 → Binary64
  | .finite s q => .finite (!s) q
  | .infinite s => .infinite (!s)
  | .nan => .nan

/-- The difference. -/
def sub (x y : Binary64) : Binary64 :=
  x.add y.neg

/-- The product. -/
def mul : Binary64 → Binary64 → Binary64
  | .finite s p, .finite t q => nearest (s != t) (p * q)
  | .finite s p, .infinite t => if p = 0 then .nan else .infinite (s != t)
  | .infinite s, .finite t q => if q = 0 then .nan else .infinite (s != t)
  | .infinite s, .infinite t => .infinite (s != t)
  | .nan, _ => .nan
  | _, .nan => .nan

/-- The quotient by a positive integer. -/
def divNat (x : Binary64) (n : Nat) : Binary64 :=
  match x with
  | .finite s q => nearest s (q / (n : Rat))
  | .infinite s => .infinite s
  | .nan => .nan

/-! ## Integers -/

/-- The nearest number to an integer, which has to be finite. -/
def ofInt (n : Int) : Except NumberError Binary64 :=
  match ofRat false (n : Rat) with
  | .finite s q => .ok (.finite s q)
  | _ => .error .integerTooLarge

/-- The correctly rounded quotient of two integers, which has to be finite. A quotient that is
zero is negative when the divisor is. -/
def ofQuotient (a b : Int) : Except NumberError Binary64 :=
  match nearest (decide (a < 0) != decide (b < 0)) (a.natAbs / b.natAbs : Rat) with
  | .finite s q => .ok (.finite s q)
  | _ => .error .quotientTooLarge

/-- The greatest integer that is not above a finite number. -/
def floor : Binary64 → Except NumberError Int
  | .finite s q => .ok (signed s q).floor
  | .infinite _ => .error .infinityToInteger
  | .nan => .error .nanToInteger

/-- The nearest integer as computed by adding one half and rounding down. -/
def roundHalfUp (x : Binary64) : Except NumberError Int :=
  (x.add half).floor

end Binary64
end ProjectGauge
