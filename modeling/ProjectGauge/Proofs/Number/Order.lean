import ProjectGauge.Proofs.Number.Nearest

/-!
# Rounding and order

Rounding keeps the order of rationals: of two numbers that change places one would be nearer to the rational
of the other.  Rounding down afterwards hides the rounding of a quotient by a whole number.  For the dividend
is a number itself, so it keeps a distance from every multiple of the divisor, and the quotient keeps more
than half a grid step from every whole number above it.

* `rounded_mono` and `roundHalfEven_mono` are the order, and `floor_rounded_div` the quotient.
-/

namespace ProjectGauge.Binary64

/-! ## Order -/

theorem isMagnitude_abs_rounded (q : Rat) : IsMagnitude |rounded q| := by
  rw [abs_rounded]
  exact isMagnitude_roundMagnitude (abs_nonneg q)

/-- What is nearer to the higher one of two numbers lies above the middle between them. -/
theorem middle_le {low high q : Rat} (apart : low < high) (near : |high - q| ≤ |low - q|) :
    low + high ≤ 2 * q := by
  by_contra below
  have nearer : |low - q| < high - q := abs_lt.mpr ⟨by linarith, by linarith⟩
  exact absurd (near.trans_lt nearer) (not_lt.mpr (le_abs_self _))

/-- What is nearer to the lower one of two numbers lies below the middle between them. -/
theorem le_middle {low high q : Rat} (apart : low < high) (near : |low - q| ≤ |high - q|) :
    2 * q ≤ low + high := by
  by_contra above
  have nearer : |high - q| < q - low := abs_lt.mpr ⟨by linarith, by linarith⟩
  rw [abs_sub_comm low] at near
  exact absurd (near.trans_lt nearer) (not_lt.mpr (le_abs_self _))

theorem rounded_mono {p q : Rat} (ordered : p ≤ q) : rounded p ≤ rounded q := by
  rcases ordered.eq_or_lt with rfl | less
  · exact le_rfl
  by_contra swapped
  have apart : rounded q < rounded p := not_le.mp swapped
  have above := middle_le apart (abs_rounded_sub_le (isMagnitude_abs_rounded q) p)
  have below := le_middle apart (abs_rounded_sub_le (isMagnitude_abs_rounded p) q)
  linarith

theorem rounded_nonneg {q : Rat} (nonneg : 0 ≤ q) : 0 ≤ rounded q := by
  rw [rounded, if_neg (not_lt.mpr nonneg)]
  exact roundMagnitude_nonneg nonneg

theorem abs_rounded_mono {p q : Rat} (ordered : |p| ≤ |q|) : |rounded p| ≤ |rounded q| := by
  have magnitudes := rounded_mono ordered
  rw [rounded, if_neg (not_lt.mpr (abs_nonneg p)), rounded, if_neg (not_lt.mpr (abs_nonneg q))] at magnitudes
  rwa [abs_rounded, abs_rounded]

/-- What lies below a number is not rounded to more than it. -/
theorem rounded_le {q bound : Rat} (isMagnitude : IsMagnitude |bound|) (below : q ≤ bound) :
    rounded q ≤ bound :=
  (rounded_mono below).trans_eq (rounded_of_isMagnitude isMagnitude)

theorem le_rounded {q bound : Rat} (isMagnitude : IsMagnitude |bound|) (above : bound ≤ q) :
    bound ≤ rounded q :=
  (rounded_of_isMagnitude isMagnitude).symm.trans_le (rounded_mono above)

theorem roundHalfEven_mono {p q : Rat} (ordered : p ≤ q) : roundHalfEven p ≤ roundHalfEven q := by
  rcases ordered.eq_or_lt with rfl | less
  · exact le_rfl
  by_contra swapped
  have next : ((roundHalfEven q + 1 : Int) : Rat) ≤ roundHalfEven p := by
    exact_mod_cast Int.add_one_le_iff.mpr (not_le.mp swapped)
  push_cast at next
  -- Both are half a step away from what they are rounded from, so they would have to be the same.
  have above := (abs_le.mp (abs_roundHalfEven_sub_le_half p)).2
  have below := (abs_le.mp (abs_roundHalfEven_sub_le_half q)).1
  linarith

/-! ## Grid steps -/

/-- Rounding moves a magnitude by half a grid step at most. -/
theorem abs_roundMagnitude_sub_le_half {q : Rat} (positive : 0 < q) :
    |roundMagnitude q - q| ≤ twoPow (gridExponent q) / 2 := by
  have gridPositive := twoPow_pos (gridExponent q)
  unfold roundMagnitude
  rw [if_neg positive.ne']
  dsimp only
  calc |(roundHalfEven (q / twoPow (gridExponent q)) : Rat) * twoPow (gridExponent q) - q|
      = |(roundHalfEven (q / twoPow (gridExponent q)) : Rat) - q / twoPow (gridExponent q)| *
          twoPow (gridExponent q) := by
        rw [← abs_of_pos gridPositive, ← abs_mul, abs_of_pos gridPositive, sub_mul,
          div_mul_cancel₀ q gridPositive.ne']
    _ ≤ 1 / 2 * twoPow (gridExponent q) :=
        mul_le_mul_of_nonneg_right (abs_roundHalfEven_sub_le_half _) gridPositive.le
    _ = twoPow (gridExponent q) / 2 := by ring

/-- A magnitude is a whole number of grid steps. -/
theorem IsMagnitude.on_grid {a : Rat} (isMagnitude : IsMagnitude a) (positive : 0 < a) :
    ∃ steps : Int, a = steps * twoPow (gridExponent a) := by
  have exact := isMagnitude.roundMagnitude_eq
  unfold roundMagnitude at exact
  rw [if_neg positive.ne'] at exact
  exact ⟨_, exact.symm⟩

/-- So is a whole number where the grid is not coarser than the whole numbers. -/
theorem intCast_on_grid {exponent : Int} (fine : exponent ≤ 0) (n : Int) :
    ∃ steps : Int, (n : Rat) = steps * twoPow exponent := by
  obtain ⟨shift, shifted⟩ := Int.eq_ofNat_of_zero_le (Int.neg_nonneg.mpr fine)
  have unit : 2 ^ shift * twoPow exponent = 1 := by
    rw [← twoPow_natCast, ← twoPow_add, ← shifted, neg_add_cancel]
    rfl
  refine ⟨n * 2 ^ shift, ?_⟩
  push_cast
  rw [mul_assoc, unit, mul_one]

/-- Different points of a grid are a step apart. -/
theorem add_step_le {grid : Rat} (positive : 0 < grid) {low high : Int} (less : low * grid < high * grid) :
    low * grid + grid ≤ high * grid := by
  have fewer : low < high := by exact_mod_cast lt_of_mul_lt_mul_right less positive.le
  have next : ((low + 1 : Int) : Rat) ≤ high := by exact_mod_cast fewer
  calc (low : Rat) * grid + grid = ((low + 1 : Int) : Rat) * grid := by push_cast; ring
    _ ≤ high * grid := mul_le_mul_of_nonneg_right next positive.le

/-- A magnitude keeps a grid step from each whole number above it, as long as its grid is not coarser than
the whole numbers. -/
theorem IsMagnitude.add_grid_le {a : Rat} (isMagnitude : IsMagnitude a) (positive : 0 < a)
    (small : a < 2 ^ 53) {n : Int} (less : a < n) : a + twoPow (gridExponent a) ≤ n := by
  have gridPositive := twoPow_pos (gridExponent a)
  have fine : gridExponent a ≤ 0 := by
    refine gridExponent_le positive ?_ (by norm_num)
    rwa [zero_add, show (53 : Int) = ((53 : Nat) : Int) from rfl, twoPow_natCast]
  obtain ⟨steps, isSteps⟩ := isMagnitude.on_grid positive
  obtain ⟨others, isOthers⟩ := intCast_on_grid fine n
  generalize twoPow (gridExponent a) = grid at *
  rw [isSteps, isOthers] at less ⊢
  exact add_step_le gridPositive less

/-! ## Quotients -/

/-- Half a grid step of a quotient is less than what a grid step of the dividend comes to, unless the quotient
is next to nothing. -/
theorem grid_div_lt {a : Rat} (positive : 0 < a) {d : Nat} (divides : 0 < d)
    (normal : -1074 < gridExponent (a / d)) :
    d * twoPow (gridExponent (a / d)) < 2 * twoPow (gridExponent a) := by
  have divisor : (0 : Rat) < d := by exact_mod_cast divides
  have low := floorLog2_le (a / d) (div_pos positive divisor)
  have high := lt_twoPow_floorLog2 a positive
  rw [le_div_iff₀ divisor] at low
  have grid : gridExponent (a / d) = floorLog2 (a / d) + -52 := by
    unfold gridExponent at normal ⊢
    omega
  have coarser : twoPow (floorLog2 a + -52) ≤ twoPow (gridExponent a) := twoPow_mono (le_max_left _ _)
  rw [grid, twoPow_add]
  rw [twoPow_add] at coarser
  have step := twoPow_pos (-52)
  calc d * (twoPow (floorLog2 (a / d)) * twoPow (-52))
      = twoPow (floorLog2 (a / d)) * d * twoPow (-52) := by ring
    _ < twoPow (floorLog2 a + 1) * twoPow (-52) := mul_lt_mul_of_pos_right (low.trans_lt high) step
    _ = 2 * (twoPow (floorLog2 a) * twoPow (-52)) := by
        rw [twoPow_add]
        norm_num [twoPow]
        ring
    _ ≤ 2 * twoPow (gridExponent a) := by linarith

/-- The quotient of a number does not come to a whole number above it by being rounded. -/
theorem rounded_div_lt {a : Rat} (isMagnitude : IsMagnitude a) (small : a < 2 ^ 53) {d : Nat}
    (divides : 0 < d) {n : Int} (less : a / d < n) : rounded (a / d) < n := by
  have divisor : (0 : Rat) < d := by exact_mod_cast divides
  rcases isMagnitude.nonneg.eq_or_lt with rfl | positive
  · rw [zero_div] at less ⊢
    rwa [rounded_zero]
  have quotient : 0 < a / d := div_pos positive divisor
  rw [rounded, if_neg (not_lt.mpr quotient.le)]
  have near := (le_abs_self _).trans (abs_roundMagnitude_sub_le_half quotient)
  rcases (le_max_right (floorLog2 (a / d) - 52) (-1074)).eq_or_lt with tiny | normal
  · -- Next to zero, a quotient stays far below one.
    have isTiny : gridExponent (a / d) = -1074 := tiny.symm
    have far : twoPow (-1021) ≤ 1 / 4 := by
      rw [show (1 / 4 : Rat) = twoPow (-2) by norm_num [twoPow]]
      exact twoPow_mono (by norm_num)
    have log : floorLog2 (a / d) + 1 ≤ -1021 := by
      unfold gridExponent at isTiny
      omega
    have below := (lt_twoPow_floorLog2 _ quotient).trans_le (twoPow_mono log)
    have step : twoPow (-1074) ≤ twoPow (-1021) := twoPow_mono (by norm_num)
    have one : (1 : Rat) ≤ n := by
      have isPositive : (0 : Rat) < n := quotient.trans less
      exact_mod_cast isPositive
    rw [isTiny] at near
    linarith
  · have steps := grid_div_lt positive divides normal
    have distance : a + twoPow (gridExponent a) ≤ n * d := by
      have less : a < ((n * d : Int) : Rat) := by
        push_cast
        exact (div_lt_iff₀ divisor).mp less
      exact_mod_cast isMagnitude.add_grid_le positive small less
    have scaled : a / d * d = a := div_mul_cancel₀ a divisor.ne'
    by_contra reached
    have past : n * d ≤ (a / d + twoPow (gridExponent (a / d)) / 2) * d :=
      mul_le_mul_of_nonneg_right (by linarith) divisor.le
    linarith

/-- Rounding down hides the rounding of a quotient by a whole number. -/
theorem floor_rounded_div {a : Rat} (isMagnitude : IsMagnitude a) (small : a < 2 ^ 53) {d : Nat}
    (divides : 0 < d) : (rounded (a / d)).floor = (a / d).floor := by
  have divisor : (1 : Rat) ≤ d := by exact_mod_cast divides
  have nonneg : 0 ≤ a / d := div_nonneg isMagnitude.nonneg (by linarith)
  have whole : 0 ≤ (a / d).floor := Rat.le_floor_iff.mpr (by exact_mod_cast nonneg)
  apply le_antisymm
  · have above := rounded_div_lt isMagnitude small divides (n := (a / d).floor + 1)
      (by exact_mod_cast Rat.lt_floor_add_one (a / d))
    have below : ((rounded (a / d)).floor : Rat) < ((a / d).floor + 1 : Int) :=
      (Rat.floor_le _).trans_lt above
    have less : (rounded (a / d)).floor < (a / d).floor + 1 := by exact_mod_cast below
    omega
  · rw [Rat.le_floor_iff]
    have below := Rat.floor_le (a / d)
    have fits : (a / d).floor.natAbs < 2 ^ 53 := by
      have few : ((a / d).floor : Rat) < (2 ^ 53 : Int) := by
        push_cast
        exact (below.trans (div_le_self isMagnitude.nonneg divisor)).trans_lt small
      have : (a / d).floor < 2 ^ 53 := by exact_mod_cast few
      omega
    calc ((a / d).floor : Rat) = rounded (a / d).floor := (rounded_intCast fits).symm
      _ ≤ rounded (a / d) := rounded_mono below

end ProjectGauge.Binary64
