import ProjectGauge.Proofs.Number.Measure
import ProjectGauge.Proofs.Number.Share
import Mathlib.Data.Rat.Floor

/-!
# Rounding half up

A number is rounded half up by adding one half and rounding down.  The sum is a number again, so it has been
rounded to the nearest one before.  Below `2 ^ 52` the halves are numbers themselves, and rounding does not
bring a sum to the next integer, but for the one number that lies next below one half.  From `2 ^ 52` on all
numbers are integers, and a sum goes back to where it came from, as long as this is even; from `2 ^ 53` on all
of them are.

* `rounded_add_half_of_fine` and `rounded_add_half_of_large` say when the half is added without an error, and
  when it is lost.
* `floor_rounded_add_half` says which integer comes of a number, and `roundHalfUp_nearest` that this is the
  nearest one for all numbers but those that are overshot.
-/

namespace ProjectGauge.Binary64

/-! ## The nearest integer -/

/-- The nearest integer to a rational, and the higher one if two are as near. -/
def IsNearest (n : Int) (q : Rat) : Prop :=
  (n : Rat) - 1 / 2 ≤ q ∧ q < n + 1 / 2

instance (n : Int) (q : Rat) : Decidable (IsNearest n q) :=
  inferInstanceAs (Decidable (_ ∧ _))

theorem floor_eq_iff {q : Rat} {n : Int} : q.floor = n ↔ (n : Rat) ≤ q ∧ q < n + 1 := by
  change ⌊q⌋ = n ↔ _
  exact Int.floor_eq_iff

theorem isNearest_iff (n : Int) (q : Rat) : IsNearest n q ↔ n = (q + 1 / 2).floor := by
  rw [eq_comm, floor_eq_iff, IsNearest]
  constructor
  · rintro ⟨low, high⟩
    exact ⟨by linarith, by linarith⟩
  · rintro ⟨low, high⟩
    exact ⟨by linarith, by linarith⟩

theorem floor_intCast_add_half (n : Int) : ((n : Rat) + 1 / 2).floor = n :=
  floor_eq_iff.mpr ⟨by linarith, by linarith⟩

/-! ## Grids of small and large numbers -/

theorem le_floorLog2 {q : Rat} (positive : 0 < q) {exponent : Int} (large : twoPow exponent ≤ q) :
    exponent ≤ floorLog2 q := by
  by_contra less
  have below := (lt_twoPow_floorLog2 q positive).trans_le (twoPow_mono (by omega : floorLog2 q + 1 ≤ exponent))
  exact absurd large (not_le.mpr below)

/-- A rational that is less than `2 ^ 53` steps of a grid away from zero is a number. -/
theorem isMagnitude_of_steps {q : Rat} {exponent : Int} (normal : -1074 ≤ exponent) (steps : Int)
    (same : q = steps * twoPow exponent) (few : |q| < 2 ^ 53 * twoPow exponent) : IsMagnitude |q| := by
  have positive := twoPow_pos exponent
  have magnitude : |q| = (steps.natAbs : Nat) * twoPow exponent := by
    rw [same, abs_mul, abs_intCast, abs_of_pos positive]
  rw [magnitude] at few
  exact ⟨steps.natAbs, exponent, by exact_mod_cast lt_of_mul_lt_mul_right few positive.le, normal, magnitude⟩

theorem IsMagnitude.on_signed_grid {q : Rat} (isMagnitude : IsMagnitude |q|) (nonzero : q ≠ 0) :
    ∃ steps : Int, q = steps * twoPow (gridExponent |q|) := by
  obtain ⟨steps, isSteps⟩ := isMagnitude.on_grid (abs_pos.mpr nonzero)
  rcases abs_choice q with same | opposite
  · exact ⟨steps, same.symm.trans isSteps⟩
  · refine ⟨-steps, ?_⟩
    rw [Int.cast_neg, neg_mul, ← isSteps, opposite, neg_neg]

/-- From `2 ^ 52` on numbers are integers, and from each further power of two on they are twice as far apart. -/
theorem exists_multiple {q : Rat} (bits : Nat) (isMagnitude : IsMagnitude |q|) (large : 2 ^ (52 + bits) ≤ |q|) :
    ∃ n : Int, q = (n * 2 ^ bits : Int) := by
  have positive : 0 < |q| := lt_of_lt_of_le (by positivity) large
  obtain ⟨steps, isSteps⟩ := isMagnitude.on_signed_grid (abs_pos.mp positive)
  have log : ((52 + bits : Nat) : Int) ≤ floorLog2 |q| := le_floorLog2 positive (by rwa [twoPow_natCast])
  obtain ⟨shift, shifted⟩ := Int.eq_ofNat_of_zero_le (by
    unfold gridExponent
    omega : 0 ≤ gridExponent |q| - bits)
  refine ⟨steps * 2 ^ shift, ?_⟩
  have split : gridExponent |q| = ((shift : Nat) : Int) + (bits : Nat) := by omega
  rw [split, twoPow_add, twoPow_natCast, twoPow_natCast] at isSteps
  rw [isSteps]
  push_cast
  ring

/-! ## Sums that are exact -/

/-- Where one half is on the grid of a number, the sum is a number as well unless it needs another bit. -/
theorem rounded_add_half_of_fine {q : Rat} (isMagnitude : IsMagnitude |q|) (nonzero : q ≠ 0)
    (small : |q| < 2 ^ 52) (stays : |q + 1 / 2| < 2 ^ 53 * twoPow (gridExponent |q|)) :
    rounded (q + 1 / 2) = q + 1 / 2 := by
  have fine : gridExponent |q| ≤ -1 := by
    refine gridExponent_le (abs_pos.mpr nonzero) (small.trans_eq ?_) (by norm_num)
    norm_num [twoPow]
  obtain ⟨steps, isSteps⟩ := isMagnitude.on_signed_grid nonzero
  obtain ⟨others, isOthers⟩ := intCast_on_grid (by omega : gridExponent |q| + 1 ≤ 0) 1
  have half : (1 / 2 : Rat) = others * twoPow (gridExponent |q|) := by
    rw [twoPow_add, show twoPow 1 = 2 by norm_num [twoPow], Int.cast_one] at isOthers
    linarith
  have sum : q + 1 / 2 = (steps + others : Int) * twoPow (gridExponent |q|) := by
    rw [Int.cast_add, add_mul, ← isSteps, ← half]
  exact rounded_of_isMagnitude (isMagnitude_of_steps (le_max_right _ _) _ sum stays)

/-! ## Small numbers -/

/-- The number next below one half. -/
def belowHalf : Rat := 1 / 2 - 1 / 2 ^ 54

theorem eq_belowHalf {q : Rat} (isMagnitude : IsMagnitude q) (low : 1 / 2 - 1 / 2 ^ 53 < q) (high : q < 1 / 2) :
    q = belowHalf := by
  have positive : 0 < q := by linarith
  have grid : gridExponent q = -54 := by
    have coarse : -2 ≤ floorLog2 q := le_floorLog2 positive (by norm_num [twoPow]; linarith)
    have fine : gridExponent q ≤ -54 :=
      gridExponent_le positive (high.trans_eq (by norm_num [twoPow])) (by norm_num)
    unfold gridExponent at fine ⊢
    omega
  obtain ⟨steps, isSteps⟩ := isMagnitude.on_grid positive
  rw [grid, show twoPow (-54) = 1 / 2 ^ 54 by norm_num [twoPow]] at isSteps
  -- Between the two bounds there is one point of the grid only.
  have above : 2 ^ 53 - 2 < steps := (Int.cast_lt (R := Rat)).mp (by push_cast; linarith)
  have below : steps < 2 ^ 53 := (Int.cast_lt (R := Rat)).mp (by push_cast; linarith)
  obtain rfl : steps = 2 ^ 53 - 1 := by omega
  rw [isSteps, belowHalf]
  norm_num

theorem rounded_add_half_lt_one {q : Rat} (isMagnitude : IsMagnitude q) (below : q < 1 / 2)
    (other : q ≠ belowHalf) : rounded (q + 1 / 2) < 1 := by
  have clear : q ≤ 1 / 2 - 1 / 2 ^ 53 := by
    by_contra near
    exact other (eq_belowHalf isMagnitude (not_le.mp near) below)
  have last : rounded (q + 1 / 2) ≤ 1 - 1 / 2 ^ 53 :=
    rounded_le (isMagnitude_of_bits (2 ^ 53 - 1) 53 (by norm_num) (by norm_num) (by norm_num)) (by linarith)
  linarith

/-- Where a number has reached a positive integer, the steps of its grid reach the next one. -/
theorem add_one_le_gridSteps {q : Rat} {n : Int} (positive : 1 ≤ n) (reached : n ≤ q) :
    (n + 1 : Rat) ≤ 2 ^ 53 * twoPow (gridExponent q) := by
  have one : (1 : Rat) ≤ q := le_trans (by exact_mod_cast positive) reached
  have qPositive : 0 < q := by linarith
  have log : 0 ≤ floorLog2 q := le_floorLog2 qPositive (by norm_num [twoPow]; exact one)
  obtain ⟨bits, isBits⟩ := Int.eq_ofNat_of_zero_le (by
    unfold gridExponent
    omega : 0 ≤ 53 + gridExponent q)
  have power : 2 ^ 53 * twoPow (gridExponent q) = (2 : Rat) ^ bits := by
    rw [← twoPow_natCast, ← twoPow_natCast, ← twoPow_add, ← isBits]
    rfl
  have below := lt_gridSteps q qPositive
  rw [power] at below ⊢
  -- The power of two is an integer, so the next integer does not exceed it.
  have less : n < 2 ^ bits := by exact_mod_cast reached.trans_lt below
  exact_mod_cast Int.add_one_le_iff.mpr less

theorem rounded_add_half_of_positive {q : Rat} {n : Int} (isMagnitude : IsMagnitude |q|) (small : |q| < 2 ^ 52)
    (positive : 1 ≤ n) (reached : n ≤ q) (below : q < n + 1 / 2) : rounded (q + 1 / 2) = q + 1 / 2 := by
  have one : (1 : Rat) ≤ q := le_trans (by exact_mod_cast positive) reached
  have qPositive : 0 < q := by linarith
  refine rounded_add_half_of_fine isMagnitude qPositive.ne' small ?_
  rw [abs_of_pos qPositive, abs_of_pos (by linarith)]
  exact lt_of_lt_of_le (by linarith) (add_one_le_gridSteps positive reached)

/-- On the way to zero no number needs another bit. -/
theorem rounded_add_half_of_negative {q : Rat} (isMagnitude : IsMagnitude |q|) (small : |q| < 2 ^ 52)
    (below : q < -1 / 2) : rounded (q + 1 / 2) = q + 1 / 2 := by
  have nonzero : q ≠ 0 := by
    rintro rfl
    norm_num at below
  refine rounded_add_half_of_fine isMagnitude nonzero small ?_
  refine lt_of_le_of_lt ?_ (lt_gridSteps |q| (abs_pos.mpr nonzero))
  rw [abs_of_nonpos (by linarith), abs_of_nonpos (by linarith)]
  linarith

/-- A sum that is nearer to an integer than to the next one is not rounded to that. -/
theorem rounded_add_half_lt_of_lt {q : Rat} {n : Int} (isNumber : IsMagnitude |(n : Rat)|)
    (nearest : IsNearest n q) (under : q < n) : rounded (q + 1 / 2) < n + 1 := by
  have near := abs_rounded_sub_le isNumber (q + 1 / 2)
  rw [abs_of_nonpos (by linarith [nearest.1] : (n : Rat) - (q + 1 / 2) ≤ 0)] at near
  linarith [(abs_le.mp near).2]

theorem rounded_add_half_lt {q : Rat} {n : Int} (isMagnitude : IsMagnitude |q|)
    (isNumber : IsMagnitude |(n : Rat)|) (small : |q| < 2 ^ 52) (nearest : IsNearest n q)
    (other : q ≠ belowHalf) : rounded (q + 1 / 2) < n + 1 := by
  have below := nearest.2
  rcases lt_or_ge q n with under | reached
  · exact rounded_add_half_lt_of_lt isNumber nearest under
  -- Above the integer the sum is exact, whatever the sign, unless the integer is zero.
  rcases lt_trichotomy n 0 with negative | rfl | positive
  · have atMost : (n : Rat) ≤ -1 := by exact_mod_cast Int.le_sub_one_of_lt negative
    rw [rounded_add_half_of_negative isMagnitude small (by linarith)]
    linarith
  · rw [Int.cast_zero] at reached below ⊢
    rw [abs_of_nonneg reached] at isMagnitude
    linarith [rounded_add_half_lt_one isMagnitude (by linarith) other]
  · rw [rounded_add_half_of_positive isMagnitude small positive reached below]
    linarith

/-- Below `2 ^ 52` rounding brings no sum to the next integer but that of the number next below one half. -/
theorem floor_rounded_add_half_of_small {q : Rat} (isMagnitude : IsMagnitude |q|) (small : |q| < 2 ^ 52)
    (other : q ≠ belowHalf) : (rounded (q + 1 / 2)).floor = (q + 1 / 2).floor := by
  have nearest := (isNearest_iff _ q).mpr rfl
  obtain ⟨above, below⟩ := id nearest
  generalize (q + 1 / 2).floor = n at nearest above below ⊢
  have isNumber : IsMagnitude |(n : Rat)| := by
    obtain ⟨smallLow, smallHigh⟩ := abs_lt.mp small
    have low : -2 ^ 53 < n := (Int.cast_lt (R := Rat)).mp (by push_cast; linarith)
    have high : n < 2 ^ 53 := (Int.cast_lt (R := Rat)).mp (by push_cast; linarith)
    exact isMagnitude_intCast (by omega)
  -- The integer is a number, so no rounding goes below it.
  exact floor_eq_iff.mpr ⟨le_rounded isNumber (by linarith),
    rounded_add_half_lt isMagnitude isNumber small nearest other⟩

/-! ## Large numbers -/

/-- A half goes to the even neighbour. -/
theorem roundHalfEven_add_half (n : Int) : roundHalfEven ((n : Rat) + 1 / 2) = n + n % 2 := by
  unfold roundHalfEven
  simp only [floor_intCast_add_half]
  rw [if_neg (by linarith), if_neg (by linarith)]
  split <;> omega

theorem roundMagnitude_add_half {n : Nat} (low : 2 ^ 52 ≤ n) (high : n < 2 ^ 53) :
    roundMagnitude ((n : Rat) + 1 / 2) = (n + n % 2 : Int) := by
  have lowCast : (2 ^ 52 : Rat) ≤ n := by exact_mod_cast low
  have highCast : (n + 1 : Rat) ≤ 2 ^ 53 := by exact_mod_cast high
  have positive : (0 : Rat) < n + 1 / 2 := by positivity
  have grid : gridExponent ((n : Rat) + 1 / 2) = 0 := by
    have coarse : 52 ≤ floorLog2 ((n : Rat) + 1 / 2) :=
      le_floorLog2 positive (le_trans (by norm_num [twoPow]) (by linarith : (2 ^ 52 : Rat) ≤ n + 1 / 2))
    have fine : gridExponent ((n : Rat) + 1 / 2) ≤ 0 :=
      gridExponent_le positive (lt_of_lt_of_eq (by linarith : (n + 1 / 2 : Rat) < 2 ^ 53) (by norm_num [twoPow]))
        (by norm_num)
    unfold gridExponent at fine ⊢
    omega
  have even := roundHalfEven_add_half n
  rw [Int.cast_natCast] at even
  unfold roundMagnitude
  rw [if_neg positive.ne', grid]
  dsimp only
  rw [show twoPow 0 = 1 from rfl, div_one, mul_one, even]

/-- Between `2 ^ 52` and `2 ^ 53` the sum lies in the middle between two numbers. -/
theorem rounded_add_half_of_middle {n : Int} (low : 2 ^ 53 ≤ (2 * n + 1).natAbs)
    (high : (2 * n + 1).natAbs < 2 ^ 54) : rounded ((n : Rat) + 1 / 2) = (n + n % 2 : Int) := by
  rcases lt_or_ge n 0 with negative | nonneg
  · obtain ⟨k, isK⟩ := Int.eq_ofNat_of_zero_le (by omega : 0 ≤ -n - 1)
    have opposite : -((n : Rat) + 1 / 2) = k + 1 / 2 := by
      have cast : (-n - 1 : Rat) = k := by exact_mod_cast congrArg (Int.cast : Int → Rat) isK
      linarith
    have below : (n : Rat) + 1 / 2 < 0 := by
      have nonneg : (0 : Rat) ≤ k := Nat.cast_nonneg k
      linarith
    rw [rounded, if_pos below, opposite, roundMagnitude_add_half (by omega) (by omega), ← Int.cast_neg]
    congr 1
    omega
  · obtain ⟨k, rfl⟩ := Int.eq_ofNat_of_zero_le nonneg
    have above : ¬ ((k : Nat) : Rat) + 1 / 2 < 0 := by
      have : (0 : Rat) ≤ k := Nat.cast_nonneg k
      linarith
    rw [Int.cast_natCast, rounded, if_neg above, roundMagnitude_add_half (by omega) (by omega)]

theorem exists_even {q : Rat} (isMagnitude : IsMagnitude |q|) (large : 2 ^ 53 ≤ |q|) :
    ∃ n : Int, q = (2 * n : Int) := by
  obtain ⟨n, isMultiple⟩ := exists_multiple 1 isMagnitude large
  exact ⟨n, by rw [isMultiple, pow_one, mul_comm]⟩

/-- From `2 ^ 53` on one half is lost. -/
theorem rounded_add_half_of_large {q : Rat} (isMagnitude : IsMagnitude |q|) (large : 2 ^ 53 ≤ |q|) :
    rounded (q + 1 / 2) = q := by
  rcases eq_or_ne q (-2 ^ 53) with rfl | other
  · -- Numbers are twice as close on the side of zero, so this one is a tie.
    decide +kernel
  obtain ⟨n, isEven⟩ := exists_even isMagnitude large
  have near := abs_rounded_sub_le isMagnitude (q + 1 / 2)
  rw [show q - (q + 1 / 2) = -(1 / 2) by ring, abs_neg, abs_of_pos (by norm_num : (0 : Rat) < 1 / 2)] at near
  obtain ⟨above, below⟩ := abs_le.mp near
  have stillLarge : 2 ^ 53 ≤ |rounded (q + 1 / 2)| := by
    rcases le_total 0 q with nonneg | nonpos
    · rw [abs_of_nonneg nonneg] at large
      exact le_trans (by linarith) (le_abs_self _)
    · rw [abs_of_nonpos nonpos] at large
      have next : q + 2 ≤ -2 ^ 53 := by
        have atMost : 2 * n ≤ -2 ^ 53 := (Int.cast_le (R := Rat)).mp (by
          rw [← isEven]
          push_cast
          linarith)
        have different : 2 * n ≠ -2 ^ 53 := by
          intro same
          rw [isEven, same] at other
          exact other (by norm_num)
        rw [isEven]
        exact_mod_cast (by omega : 2 * n + 2 ≤ -2 ^ 53)
      exact le_trans (by linarith) (neg_le_abs _)
  -- What the sum is rounded to is even as well, and no more than one away.
  obtain ⟨k, alsoEven⟩ := exists_even (isMagnitude_abs_rounded _) stillLarge
  have low : 2 * n ≤ 2 * k := (Int.cast_le (R := Rat)).mp (by
    rw [← isEven, ← alsoEven]
    linarith)
  have high : 2 * k ≤ 2 * n + 1 := (Int.cast_le (R := Rat)).mp (by
    rw [← alsoEven, Int.cast_add, ← isEven, Int.cast_one]
    linarith)
  obtain rfl : k = n := by omega
  rw [alsoEven, ← isEven]

/-! ## All numbers -/

/-- The numbers for which adding one half and rounding down comes to the next integer: the one next below one
half, and the odd ones of fifty-three bits. -/
def IsOvershot (q : Rat) : Prop :=
  q = belowHalf ∨ q.den = 1 ∧ q.num % 2 = 1 ∧ 2 ^ 52 < q.num.natAbs ∧ q.num.natAbs < 2 ^ 53

instance (q : Rat) : Decidable (IsOvershot q) :=
  inferInstanceAs (Decidable (_ ∨ _))

theorem isOvershot_intCast {n : Int} : IsOvershot n ↔ n % 2 = 1 ∧ 2 ^ 52 < n.natAbs ∧ n.natAbs < 2 ^ 53 := by
  have notBelowHalf : (n : Rat) ≠ belowHalf := by
    intro same
    have whole := congrArg Rat.den same
    rw [Rat.den_intCast] at whole
    exact absurd whole (by decide +kernel)
  simp [IsOvershot, notBelowHalf]

theorem not_isOvershot_of_small {q : Rat} (small : |q| < 2 ^ 52) (other : q ≠ belowHalf) : ¬ IsOvershot q := by
  rintro (same | ⟨whole, -, low, -⟩)
  · exact other same
  · have integer : (q.num : Rat) = q := Rat.coe_int_num_of_den_eq_one whole
    rw [← integer, abs_intCast] at small
    have : q.num.natAbs < 2 ^ 52 := by exact_mod_cast small
    omega

theorem floor_rounded_add_half_intCast {n : Int} (isMagnitude : IsMagnitude |(n : Rat)|)
    (large : 2 ^ 52 ≤ n.natAbs) : (rounded ((n : Rat) + 1 / 2)).floor = if IsOvershot n then n + 1 else n := by
  have largeCast (bits : Nat) (wide : 2 ^ bits ≤ n.natAbs) : (2 : Rat) ^ bits ≤ |(n : Rat)| := by
    rw [abs_intCast]
    exact_mod_cast wide
  simp only [isOvershot_intCast]
  rcases lt_or_ge n.natAbs (2 ^ 53) with middle | veryLarge
  · rcases eq_or_ne n (-2 ^ 52) with rfl | other
    · decide +kernel
    · rw [rounded_add_half_of_middle (by omega) (by omega), Rat.floor_intCast]
      split <;> omega
  · rw [rounded_add_half_of_large isMagnitude (largeCast 53 veryLarge), Rat.floor_intCast, if_neg (by omega)]

/-- The sum with one half, rounded and rounded down, is the nearest integer unless the number is overshot. -/
theorem floor_rounded_add_half {q : Rat} (isMagnitude : IsMagnitude |q|) :
    (rounded (q + 1 / 2)).floor =
      if IsOvershot q then (q + 1 / 2).floor + 1 else (q + 1 / 2).floor := by
  rcases lt_or_ge |q| (2 ^ 52) with small | large
  · by_cases same : q = belowHalf
    · subst same
      decide +kernel
    · rw [if_neg (not_isOvershot_of_small small same)]
      exact floor_rounded_add_half_of_small isMagnitude small same
  · obtain ⟨n, whole⟩ := exists_multiple 0 isMagnitude large
    rw [pow_zero, mul_one] at whole
    subst whole
    rw [abs_intCast] at large
    rw [floor_intCast_add_half]
    exact floor_rounded_add_half_intCast isMagnitude (by exact_mod_cast large)

/-- A sum with one half does not overflow. -/
theorem abs_rounded_add_half_lt {q : Rat} (isMagnitude : IsMagnitude |q|) (finite : |q| < overflowBound) :
    |rounded (q + 1 / 2)| < overflowBound := by
  rcases lt_or_ge |q| (2 ^ 53) with small | large
  · have near := abs_rounded_add_le isMagnitude (1 / 2)
    rw [abs_of_pos (by norm_num : (0 : Rat) < 1 / 2)] at near
    calc |rounded (q + 1 / 2)| < 2 ^ 54 := by linarith
      _ = twoPow 54 := (twoPow_natCast 54).symm
      _ ≤ overflowBound := twoPow_mono (by norm_num)
  · rw [rounded_add_half_of_large isMagnitude large]
    exact finite

theorem HasValue.roundHalfUp_eq {x : Binary64} {value : Rat} (hasValue : x.HasValue value) :
    x.roundHalfUp =
      .ok (if IsOvershot value then (value + 1 / 2).floor + 1 else (value + 1 / 2).floor) := by
  have finite := abs_rounded_add_half_lt hasValue.isMagnitude hasValue.abs_lt
  rw [Binary64.roundHalfUp, (hasValue.add_of_finite half_hasValue finite).floor,
    floor_rounded_add_half hasValue.isMagnitude]

end ProjectGauge.Binary64

namespace ProjectGauge.Measure

open Binary64

/-! ## All measures -/

/-- A measure that stands for the same rational as its binary64 counterpart: a finite number, or a whole one
that is converted without a loss. -/
def IsExact (value : Rat) (m : Measure) : Prop :=
  m.HasValue value ∧ ∃ x, m.toBinary64 = .ok x ∧ x.HasValue value

theorem real_isExact {x : Binary64} {value : Rat} (hasValue : x.HasValue value) : (real x).IsExact value :=
  ⟨hasValue, x, rfl, hasValue⟩

theorem whole_isExact {n : Int} (fits : n.natAbs < 2 ^ 53) : (whole n).IsExact n := by
  obtain ⟨x, converted, hasValue⟩ := ofInt_of_fits fits
  exact ⟨rfl, x, converted, hasValue⟩

/-- A finite number, or a whole one that is converted without a loss, is rounded to the nearest integer, a half
going up, if and only if it is not one of the numbers that are overshot; these come to the next integer. -/
theorem roundHalfUp_nearest {m : Measure} {value : Rat} (exact : m.IsExact value) :
    ∃ nearest : Int, (∀ n, IsNearest n value ↔ n = nearest) ∧
      m.roundHalfUp = .ok (if IsOvershot value then nearest + 1 else nearest) := by
  obtain ⟨-, x, converted, hasValue⟩ := exact
  refine ⟨(value + 1 / 2).floor, fun n => isNearest_iff n value, ?_⟩
  rw [Measure.roundHalfUp, converted, ok_bind, hasValue.roundHalfUp_eq]

/-- Five halves below zero lie in the middle between two integers, and go up to the one nearer to zero. -/
theorem roundHalfUp_nearest_half_below_zero :
    (∀ n, IsNearest n (-5 / 2) ↔ n = -2) ∧ (real (.finite true (5 / 2))).roundHalfUp = .ok (-2) := by
  have isMagnitude : IsMagnitude (5 / 2) := ⟨5, -1, by norm_num, by norm_num, by norm_num [twoPow]⟩
  have finite : (5 / 2 : Rat) < overflowBound :=
    lt_trans (by norm_num) (natCast_lt_overflowBound (by norm_num : 3 < 2 ^ 53))
  have hasValue : (Binary64.finite true (5 / 2)).HasValue (-5 / 2) :=
    ⟨true, 5 / 2, rfl, by norm_num [signed], isMagnitude, finite⟩
  obtain ⟨nearest, isNearest, rounded⟩ := roundHalfUp_nearest (real_isExact hasValue)
  obtain rfl : -2 = nearest := (isNearest (-2)).mp (by decide +kernel)
  exact ⟨isNearest, rounded.trans (by decide +kernel)⟩

/-- The number next below one half is rounded to one, and one more than `2 ^ 52` to two more than it. -/
theorem roundHalfUp_overshoots :
    (real (.finite false belowHalf)).IsExact belowHalf ∧ IsNearest 0 belowHalf ∧ ¬ IsNearest 1 belowHalf ∧
      (real (.finite false belowHalf)).roundHalfUp = .ok 1 ∧
      (whole (2 ^ 52 + 1)).IsExact (2 ^ 52 + 1 : Int) ∧ ¬ IsNearest (2 ^ 52 + 2) (2 ^ 52 + 1 : Int) ∧
      (whole (2 ^ 52 + 1)).roundHalfUp = .ok (2 ^ 52 + 2) := by
  have isMagnitude : IsMagnitude belowHalf :=
    ⟨2 ^ 53 - 1, -54, by norm_num, by norm_num, by norm_num [belowHalf, twoPow]⟩
  exact ⟨real_isExact (isMagnitude.hasValue (by norm_num [belowHalf])), by decide +kernel, by decide +kernel,
    by decide +kernel, whole_isExact (by decide), by decide +kernel, by decide +kernel⟩

end ProjectGauge.Measure
