import ProjectGauge.Number.Binary64
import Mathlib.Algebra.Order.Field.Power
import Mathlib.Algebra.Order.Ring.Rat
import Mathlib.Data.Nat.Log
import Mathlib.Tactic.Linarith
import Mathlib.Tactic.NormNum
import Mathlib.Tactic.Positivity
import Mathlib.Tactic.Ring

/-!
# How far rounding moves a number

Rounding to binary64 moves a magnitude by half a grid step at most, and the grid is never coarser than
the magnitude itself or than the smallest subnormal.  So a rounded magnitude is at most twice the exact
one plus one, and arithmetic on magnitudes far below the overflow bound stays finite.

* `floorLog2_le` places a magnitude above the power of two that its grid is taken from.
* `AtMost` says that a number is finite, not negative and not above a bound; `mul_atMost` and
  `ofQuotient_atMost` carry it through the operations.
-/

namespace ProjectGauge.Binary64

/-! ## Powers of two -/

theorem twoPow_pos (exponent : Int) : 0 < twoPow exponent := by
  unfold twoPow
  positivity

theorem twoPow_add (first second : Int) :
    twoPow (first + second) = twoPow first * twoPow second := by
  unfold twoPow
  exact zpow_add₀ (by norm_num) first second

theorem twoPow_mono {low high : Int} (ordered : low ≤ high) : twoPow low ≤ twoPow high := by
  unfold twoPow
  exact zpow_le_zpow_right₀ (by norm_num) ordered

theorem twoPow_natCast (exponent : Nat) : twoPow exponent = (2 : Rat) ^ exponent := by
  unfold twoPow
  exact zpow_natCast 2 exponent

theorem twoPow_sub_le_quotient (q : Rat) (positive : 0 < q) :
    twoPow ((q.num.natAbs.log2 : Int) - (q.den.log2 : Int) - 1) ≤ q := by
  have numeratorPositive : 0 < q.num := Rat.num_pos.mpr positive
  have denominatorPositive : (0 : Rat) < q.den := by exact_mod_cast q.den_pos
  have below : 2 ^ q.num.natAbs.log2 ≤ q.num.natAbs := Nat.log2_self_le (by omega)
  have above : q.den < 2 ^ (q.den.log2 + 1) := Nat.lt_log2_self
  have numerator : ((q.num.natAbs : Nat) : Rat) = q.num := by
    rw [← Int.cast_natCast, Int.natAbs_of_nonneg numeratorPositive.le]
  -- The numerator is at least its power of two, the denominator at most twice its own.
  have split : twoPow ((q.num.natAbs.log2 : Int) - (q.den.log2 : Int) - 1) *
      (2 : Rat) ^ (q.den.log2 + 1) = (2 : Rat) ^ q.num.natAbs.log2 := by
    rw [← twoPow_natCast, ← twoPow_natCast, ← twoPow_add]
    congr 1
    push_cast
    ring
  have scaled : twoPow ((q.num.natAbs.log2 : Int) - (q.den.log2 : Int) - 1) * q.den ≤ q.num := by
    calc twoPow ((q.num.natAbs.log2 : Int) - (q.den.log2 : Int) - 1) * q.den
        ≤ twoPow ((q.num.natAbs.log2 : Int) - (q.den.log2 : Int) - 1) * 2 ^ (q.den.log2 + 1) := by
          apply mul_le_mul_of_nonneg_left _ (twoPow_pos _).le
          exact_mod_cast above.le
      _ = 2 ^ q.num.natAbs.log2 := split
      _ ≤ q.num := by
          rw [← numerator]
          exact_mod_cast below
  calc twoPow ((q.num.natAbs.log2 : Int) - (q.den.log2 : Int) - 1)
      ≤ q.num / q.den := (le_div_iff₀ denominatorPositive).mpr scaled
    _ = q := Rat.num_div_den q

/-- The power of two that the grid of a magnitude is taken from does not exceed the magnitude. -/
theorem floorLog2_le (q : Rat) (positive : 0 < q) : twoPow (floorLog2 q) ≤ q := by
  unfold floorLog2
  dsimp only
  split
  · assumption
  · exact twoPow_sub_le_quotient q positive

/-! ## One rounding -/

theorem roundHalfEven_le (q : Rat) : (roundHalfEven q : Rat) ≤ q + 1 / 2 := by
  have floorBelow := Rat.floor_le q
  unfold roundHalfEven
  dsimp only
  split
  · linarith
  · split
    · push_cast; linarith
    · split
      · linarith
      · push_cast; linarith

theorem roundHalfEven_nonneg {q : Rat} (nonneg : 0 ≤ q) : 0 ≤ roundHalfEven q := by
  have floorNonneg : 0 ≤ q.floor := Rat.le_floor_iff.mpr (by exact_mod_cast nonneg)
  unfold roundHalfEven
  dsimp only
  split_ifs <;> omega

/-- A grid is not coarser than the magnitude that it is for, or than the smallest subnormal. -/
theorem twoPow_gridExponent_le (q : Rat) (positive : 0 < q) : twoPow (gridExponent q) ≤ q + 1 := by
  unfold gridExponent
  rcases le_total (floorLog2 q - 52) (-1074) with subnormal | normal
  · -- Among the subnormals the grid is as fine as it gets.
    rw [max_eq_right subnormal]
    have small : twoPow (-1074) ≤ twoPow 0 := twoPow_mono (by norm_num)
    have one : twoPow 0 = 1 := rfl
    linarith
  · rw [max_eq_left normal]
    have finer : twoPow (floorLog2 q - 52) ≤ twoPow (floorLog2 q) := twoPow_mono (by linarith)
    linarith [floorLog2_le q positive]

theorem roundMagnitude_nonneg {q : Rat} (nonneg : 0 ≤ q) : 0 ≤ roundMagnitude q := by
  unfold roundMagnitude
  split
  · exact le_refl 0
  · have steps : 0 ≤ roundHalfEven (q / twoPow (gridExponent q)) :=
      roundHalfEven_nonneg (div_nonneg nonneg (twoPow_pos _).le)
    exact mul_nonneg (by exact_mod_cast steps) (twoPow_pos _).le

/-- A rounded magnitude is at most twice the exact one plus one. -/
theorem roundMagnitude_le {q : Rat} (nonneg : 0 ≤ q) : roundMagnitude q ≤ 2 * q + 1 := by
  unfold roundMagnitude
  split
  · linarith
  · rename_i nonzero
    have positive : 0 < q := lt_of_le_of_ne nonneg (Ne.symm nonzero)
    have gridPositive := twoPow_pos (gridExponent q)
    have gridBound := twoPow_gridExponent_le q positive
    have steps := roundHalfEven_le (q / twoPow (gridExponent q))
    calc (roundHalfEven (q / twoPow (gridExponent q)) : Rat) * twoPow (gridExponent q)
        ≤ (q / twoPow (gridExponent q) + 1 / 2) * twoPow (gridExponent q) :=
          mul_le_mul_of_nonneg_right steps gridPositive.le
      _ = q + twoPow (gridExponent q) / 2 := by
          rw [add_mul, div_mul_cancel₀ q gridPositive.ne']
          ring
      _ ≤ 2 * q + 1 := by linarith

/-! ## Numbers up to a bound -/

/-- A finite number that is neither negative nor above a bound. -/
def AtMost (bound : Rat) (x : Binary64) : Prop :=
  ∃ q, x = .finite false q ∧ 0 ≤ q ∧ q ≤ bound

/-- Bounds under which one rounded operation cannot overflow. -/
def Roomy (bound : Rat) : Prop :=
  2 * bound + 1 < overflowBound

theorem roomy_of_le_twoPow {bound : Rat} (small : bound ≤ 2 ^ 1022) : Roomy bound := by
  -- The powers are too large to be computed with, so the common factor gets a name.
  have overflow : overflowBound = 2 ^ 2 * 2 ^ 1022 := by
    rw [← pow_add]
    exact twoPow_natCast 1024
  have one : (1 : Rat) ≤ 2 ^ 1022 := one_le_pow₀ (by norm_num)
  unfold Roomy
  rw [overflow]
  generalize (2 : Rat) ^ 1022 = limit at *
  linarith

theorem roomy_of_small {bound : Rat} (small : bound ≤ 2 ^ 20) : Roomy bound :=
  roomy_of_le_twoPow (small.trans (pow_le_pow_right₀ (by norm_num) (by norm_num)))

theorem AtMost.mono {low high : Rat} {x : Binary64} (ordered : low ≤ high) (atMost : AtMost low x) :
    AtMost high x := by
  obtain ⟨q, rfl, nonneg, bounded⟩ := atMost
  exact ⟨q, rfl, nonneg, bounded.trans ordered⟩

theorem nearest_atMost {q bound : Rat} (nonneg : 0 ≤ q) (bounded : q ≤ bound) (roomy : Roomy bound) :
    AtMost (2 * bound + 1) (nearest false q) := by
  have rounded : roundMagnitude q ≤ 2 * bound + 1 := by linarith [roundMagnitude_le nonneg]
  refine ⟨roundMagnitude q, ?_, roundMagnitude_nonneg nonneg, rounded⟩
  unfold nearest
  dsimp only
  rw [if_pos (lt_of_le_of_lt rounded roomy)]

theorem mul_atMost {x y : Binary64} {a b : Rat} (left : AtMost a x) (right : AtMost b y)
    (roomy : Roomy (a * b)) : AtMost (2 * (a * b) + 1) (x.mul y) := by
  obtain ⟨p, rfl, pNonneg, pBounded⟩ := left
  obtain ⟨q, rfl, qNonneg, qBounded⟩ := right
  have aNonneg : 0 ≤ a := pNonneg.trans pBounded
  exact nearest_atMost (mul_nonneg pNonneg qNonneg) (mul_le_mul pBounded qBounded qNonneg aNonneg)
    roomy

/-- The quotient of a count by a positive number is finite if its exact value is far below the overflow
bound. -/
theorem ofQuotient_atMost {a b : Int} (bound : Rat) (nonneg : 0 ≤ a) (positive : 0 < b)
    (bounded : (a : Rat) ≤ bound * b) (roomy : Roomy bound) :
    ∃ x, ofQuotient a b = .ok x ∧ AtMost (2 * bound + 1) x := by
  have numerator : ((a.natAbs : Nat) : Rat) = a := by
    rw [← Int.cast_natCast, Int.natAbs_of_nonneg nonneg]
  have denominator : ((b.natAbs : Nat) : Rat) = b := by
    rw [← Int.cast_natCast, Int.natAbs_of_nonneg positive.le]
  have denominatorPositive : (0 : Rat) < b := by exact_mod_cast positive
  have quotientNonneg : (0 : Rat) ≤ a.natAbs / b.natAbs := by
    rw [numerator, denominator]
    exact div_nonneg (by exact_mod_cast nonneg) denominatorPositive.le
  have quotientBounded : (a.natAbs / b.natAbs : Rat) ≤ bound := by
    rw [numerator, denominator]
    exact (div_le_iff₀ denominatorPositive).mpr bounded
  obtain ⟨q, rounded, qNonneg, qBounded⟩ := nearest_atMost quotientNonneg quotientBounded roomy
  refine ⟨.finite false q, ?_, q, rfl, qNonneg, qBounded⟩
  have sign : (decide (a < 0) != decide (b < 0)) = false := by
    simp [not_lt.mpr nonneg, not_lt.mpr positive.le]
  unfold ofQuotient
  rw [sign, rounded]

end ProjectGauge.Binary64
