import ProjectGauge.Proofs.Number.Order

/-!
# Shares of thirty cells

The cells for a share are counted in three roundings: the quotient, its thirtieth multiple, and the sum with
one half that is rounded down.  A share above a half of a cell gets the cell because rounding keeps the order
and the halves themselves come out right, all thirty of them.  A share below it does not, because a quotient by
a number of at most forty bits keeps a distance from the half that the roundings do not bridge.

* `floor_rounded_share` says that the roundings neither add nor lose a cell.
-/

namespace ProjectGauge.Binary64

/-! ## Small numbers -/

/-- Rounding moves what is not above one by half of the finest bit of one at most. -/
theorem abs_rounded_sub_le_of_le_one {q : Rat} (nonneg : 0 ≤ q) (small : q ≤ 1) :
    |rounded q - q| ≤ 1 / 2 ^ 53 := by
  rcases nonneg.eq_or_lt with rfl | positive
  · rw [rounded_zero]
    norm_num
  have grid : twoPow (gridExponent q) ≤ twoPow (-52) := by
    refine twoPow_mono (gridExponent_le positive (small.trans_lt ?_) (by norm_num))
    norm_num [twoPow]
  rw [rounded, if_neg (not_lt.mpr nonneg)]
  calc |roundMagnitude q - q| ≤ twoPow (gridExponent q) / 2 := abs_roundMagnitude_sub_le_half positive
    _ ≤ twoPow (-52) / 2 := by linarith
    _ = 1 / 2 ^ 53 := by norm_num [twoPow]

/-- A number of few bits behind the point is exact. -/
theorem isMagnitude_of_bits {q : Rat} (factor bits : Nat) (fits : factor < 2 ^ 53) (fine : bits ≤ 1074)
    (same : q * 2 ^ bits = factor) : IsMagnitude |q| := by
  have power : (0 : Rat) < 2 ^ bits := by positivity
  have exact : q = factor / 2 ^ bits := (eq_div_iff power.ne').mpr same
  have nonneg : 0 ≤ q := by
    rw [exact]
    positivity
  refine ⟨factor, -(bits : Int), fits, by omega, ?_⟩
  rw [abs_of_nonneg nonneg, exact, twoPow, zpow_neg, zpow_natCast, div_eq_mul_inv]

theorem isMagnitude_natCast {n : Nat} (fits : n < 2 ^ 53) : IsMagnitude |(n : Rat)| :=
  isMagnitude_of_bits n 0 fits (by norm_num) (by simp)

theorem natCast_hasValue {n : Nat} (fits : n < 2 ^ 53) : (finite false n).HasValue n := by
  have isMagnitude := isMagnitude_natCast fits
  rw [Nat.abs_cast] at isMagnitude
  exact isMagnitude.hasValue (by exact_mod_cast fits)

/-! ## Halves of a cell -/

/-- The shares that end in the middle of a cell are not rounded below it, however they come out in binary. -/
theorem middle_le_rounded : ∀ cell < 30,
    ((2 * cell + 1 : Nat) : Rat) / 2 ≤ rounded (rounded (((2 * cell + 1 : Nat) : Rat) / 60) * 30) := by
  decide +kernel

variable {share : Rat}

/-- What reaches the middle of a cell gets the cell. -/
theorem le_rounded_share {cells : Nat} (few : cells ≤ 30) (nonneg : 0 ≤ share)
    (reached : ((2 * cells : Int) - 1 : Rat) ≤ 60 * share) :
    (cells : Rat) ≤ rounded (rounded (rounded share * 30) + 1 / 2) := by
  apply le_rounded (isMagnitude_natCast (by omega))
  cases cells with
  | zero =>
    have product : 0 ≤ rounded (rounded share * 30) :=
      rounded_nonneg (mul_nonneg (rounded_nonneg nonneg) (by norm_num))
    push_cast
    linarith
  | succ cell =>
    have above : ((2 * cell + 1 : Nat) : Rat) / 60 ≤ share := by
      push_cast at reached ⊢
      linarith
    have product : rounded (((2 * cell + 1 : Nat) : Rat) / 60) * 30 ≤ rounded share * 30 :=
      mul_le_mul_of_nonneg_right (rounded_mono above) (by norm_num)
    have middle := (middle_le_rounded cell (by omega)).trans (rounded_mono product)
    push_cast at middle ⊢
    linarith

/-- What stays clear of the middle of the next cell does not get that cell. -/
theorem rounded_share_lt {cells : Nat} (few : cells ≤ 30) (nonneg : 0 ≤ share) (small : share ≤ 1)
    (clear : 60 * share + 1 / 2 ^ 40 ≤ 2 * cells + 1) :
    rounded (rounded (rounded share * 30) + 1 / 2) < cells + 1 := by
  have near := (abs_le.mp (abs_rounded_sub_le_of_le_one nonneg small)).2
  have cellsNonneg : (0 : Rat) ≤ cells := Nat.cast_nonneg cells
  -- Half of the distance is left when the quotient has been rounded, and the rest is not touched.
  have product : rounded (rounded share * 30) ≤ cells + 1 / 2 - 1 / 2 ^ 42 := by
    refine rounded_le (isMagnitude_of_bits ((2 * cells + 1) * 2 ^ 41 - 1) 42 ?_ (by norm_num) ?_) ?_
    · omega
    · rw [Nat.cast_sub (by omega)]
      push_cast
      ring
    · linarith
  have sum : rounded (rounded (rounded share * 30) + 1 / 2) ≤ cells + 1 - 1 / 2 ^ 42 := by
    refine rounded_le (isMagnitude_of_bits ((cells + 1) * 2 ^ 42 - 1) 42 ?_ (by norm_num) ?_) ?_
    · omega
    · rw [Nat.cast_sub (by omega)]
      push_cast
      ring
    · linarith
  linarith

/-! ## Cells -/

/-- The roundings of a share of at most forty bits neither add nor lose a cell. -/
theorem floor_rounded_share {count greatest : Int} (nonneg : 0 ≤ count) (atMost : count ≤ greatest)
    (positive : 0 < greatest) (small : greatest < 2 ^ 40) :
    (rounded (rounded (rounded (count / greatest) * 30) + 1 / 2)).floor =
      (60 * count + greatest) / (2 * greatest) := by
  obtain ⟨cells, isCells⟩ := Int.eq_ofNat_of_zero_le
    (Int.ediv_nonneg (by omega) (by omega) : 0 ≤ (60 * count + greatest) / (2 * greatest))
  have low : cells * (2 * greatest) ≤ 60 * count + greatest :=
    (Int.le_ediv_iff_mul_le (by omega)).mp isCells.ge
  have high : 60 * count + greatest < (cells + 1) * (2 * greatest) :=
    (Int.ediv_lt_iff_lt_mul (by omega)).mp (by omega)
  have few : cells ≤ 30 := by
    by_contra many
    have : 31 * (2 * greatest) ≤ cells * (2 * greatest) := Int.mul_le_mul_of_nonneg_right (by omega) (by omega)
    omega
  have divisor : (0 : Rat) < greatest := by exact_mod_cast positive
  have shareNonneg : (0 : Rat) ≤ count / greatest := div_nonneg (by exact_mod_cast nonneg) divisor.le
  have shareSmall : (count / greatest : Rat) ≤ 1 := by
    rw [div_le_one divisor]
    exact_mod_cast atMost
  have reached : ((2 * cells : Int) - 1 : Rat) ≤ 60 * (count / greatest) := by
    rw [← mul_div_assoc, le_div_iff₀ divisor]
    have exact : (2 * cells - 1) * greatest ≤ 60 * count := by linarith
    exact_mod_cast exact
  -- The distance from the next half is at least one part of the divisor.
  have clear : 60 * (count / greatest : Rat) + 1 / 2 ^ 40 ≤ 2 * cells + 1 := by
    have part : (1 / 2 ^ 40 : Rat) ≤ 1 / greatest := by
      apply one_div_le_one_div_of_le divisor
      exact_mod_cast small.le
    have exact : 60 * count + 1 ≤ (2 * cells + 1) * greatest := by linarith
    have distance : (60 * count + 1 : Rat) / greatest ≤ 2 * cells + 1 := by
      rw [div_le_iff₀ divisor]
      exact_mod_cast exact
    rw [add_div, mul_div_assoc] at distance
    linarith
  have atLeast : (cells : Int) ≤ (rounded (rounded (rounded (count / greatest) * 30) + 1 / 2)).floor := by
    rw [Rat.le_floor_iff]
    exact_mod_cast le_rounded_share few shareNonneg reached
  have lessThan : (rounded (rounded (rounded (count / greatest) * 30) + 1 / 2)).floor < (cells + 1 : Int) := by
    rw [Rat.floor_lt_iff]
    exact_mod_cast rounded_share_lt few shareNonneg shareSmall clear
  rw [isCells]
  omega

end ProjectGauge.Binary64
