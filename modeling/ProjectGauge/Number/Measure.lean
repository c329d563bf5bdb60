import ProjectGauge.Number.Binary64

/-!
# Measures

A measure is what a caller knows of a size, an age or a moment: a whole number of any size, or a
binary64 number. Whole numbers stay exact until they are divided or combined with a binary64 one.
-/

namespace ProjectGauge

/-- A whole number or a binary64 number. -/
inductive Measure where
  | whole (n : Int)
  | real (x : Binary64)
  deriving DecidableEq

namespace Measure

def toBinary64 : Measure → Except NumberError Binary64
  | .whole n => Binary64.ofInt n
  | .real x => .ok x

/-- The greatest integer that is not above the measure. -/
def floor : Measure → Except NumberError Int
  | .whole n => .ok n
  | .real x => x.floor

/-- The quotient by a positive whole number. -/
def dividedBy (m : Measure) (n : Nat) : Except NumberError Binary64 :=
  match m with
  | .whole k => Binary64.ofQuotient k n
  | .real x => .ok (x.divNat n)

/-- Zero, from which sums start. -/
def zero : Measure := .whole 0

/-- The sum of two measures, exact between whole numbers. -/
def add : Measure → Measure → Except NumberError Measure
  | .whole a, .whole b => .ok (.whole (a + b))
  | a, b => do return .real ((← a.toBinary64).add (← b.toBinary64))

/-- The difference of two measures, exact between whole numbers. -/
def sub : Measure → Measure → Except NumberError Measure
  | .whole a, .whole b => .ok (.whole (a - b))
  | a, b => do return .real ((← a.toBinary64).sub (← b.toBinary64))

/-- The nearest whole number, a half going up, by way of the binary64 sum with one half. -/
def roundHalfUp (m : Measure) : Except NumberError Int := do
  (← m.toBinary64).roundHalfUp

end Measure
end ProjectGauge
