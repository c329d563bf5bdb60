import ProjectGauge.Proofs.Number.Exact

/-!
# Rounding to a nearest number

What a rational is rounded to is a binary64 number, as long as it does not overflow, and no other one is
nearer to the rational.  Since zero and the terms of a sum are numbers themselves, rounding at most doubles
a rational, and adding a term moves a sum by at most twice the term, however many terms there are.

* `abs_rounded_sub_le` is the law; it compares the grid of the rational with the grid of another number.
* `HasValue` says which rational a finite number stands for; `HasValue.add`, `HasValue.mul`,
  `HasValue.divNat`, `ofInt_hasValue` and `ofQuotient_hasValue` carry it through the operations.
* `hasValue_of_ofQuotient`, `add_valid` and `Valid.divNat` say of results that may overflow that they have
  a value unless they do.
* `roundMagnitude_eq_zero_iff` says what is rounded to zero, and `rounded_nonneg_iff` what keeps its sign.
-/

namespace ProjectGauge.Binary64

/-! ## The grid around a magnitude -/

theorem quotient_lt_twoPow (q : Rat) (positive : 0 < q) :
    q < twoPow ((q.num.natAbs.log2 : Int) - (q.den.log2 : Int) + 1) := by
  have denominatorPositive : (0 : Rat) < q.den := by exact_mod_cast q.den_pos
  have below : q.num.natAbs < 2 ^ (q.num.natAbs.log2 + 1) := Nat.lt_log2_self
  have above : 2 ^ q.den.log2 ≤ q.den := Nat.log2_self_le q.den_nz
  have numerator : ((q.num.natAbs : Nat) : Rat) = q.num := by
    rw [← Int.cast_natCast, Int.natAbs_of_nonneg (Rat.num_pos.mpr positive).le]
  -- The numerator is less than twice its power of two, the denominator at least its own.
  have split : twoPow ((q.num.natAbs.log2 : Int) - (q.den.log2 : Int) + 1) * (2 : Rat) ^ q.den.log2 =
      (2 : Rat) ^ (q.num.natAbs.log2 + 1) := by
    rw [← twoPow_natCast, ← twoPow_natCast, ← twoPow_add]
    congr 1
    push_cast
    ring
  calc q = q.num / q.den := (Rat.num_div_den q).symm
    _ < twoPow ((q.num.natAbs.log2 : Int) - (q.den.log2 : Int) + 1) := by
      rw [div_lt_iff₀ denominatorPositive]
      calc (q.num : Rat) < (2 : Rat) ^ (q.num.natAbs.log2 + 1) := by
            rw [← numerator]
            exact_mod_cast below
        _ = twoPow ((q.num.natAbs.log2 : Int) - (q.den.log2 : Int) + 1) * 2 ^ q.den.log2 := split.symm
        _ ≤ twoPow ((q.num.natAbs.log2 : Int) - (q.den.log2 : Int) + 1) * q.den := by
            apply mul_le_mul_of_nonneg_left _ (twoPow_pos _).le
            exact_mod_cast above

/-- A magnitude is less than twice the power of two that its grid is taken from. -/
theorem lt_twoPow_floorLog2 (q : Rat) (positive : 0 < q) : q < twoPow (floorLog2 q + 1) := by
  unfold floorLog2
  dsimp only
  split
  · exact quotient_lt_twoPow q positive
  · rename_i below
    rw [Int.sub_add_cancel]
    exact not_le.mp below

/-- A magnitude has less than `2 ^ 53` steps of its grid. -/
theorem lt_gridSteps (q : Rat) (positive : 0 < q) : q < 2 ^ 53 * twoPow (gridExponent q) := by
  have fine : floorLog2 q + 1 ≤ ((53 : Nat) : Int) + gridExponent q := by
    unfold gridExponent
    omega
  rw [← twoPow_natCast, ← twoPow_add]
  exact (lt_twoPow_floorLog2 q positive).trans_le (twoPow_mono fine)

/-! ## The nearest integer -/

theorem abs_roundHalfEven_sub_le_half (q : Rat) : |(roundHalfEven q : Rat) - q| ≤ 1 / 2 := by
  have floorBelow := Rat.floor_le q
  have floorNear : q < (q.floor : Rat) + 1 := by exact_mod_cast Rat.lt_floor_add_one q
  rw [abs_le]
  unfold roundHalfEven
  dsimp only
  split_ifs <;> push_cast <;> constructor <;> linarith

theorem abs_roundHalfEven_sub_le (q : Rat) (n : Int) : |(roundHalfEven q : Rat) - q| ≤ |(n : Rat) - q| := by
  have near := abs_roundHalfEven_sub_le_half q
  rcases le_or_gt (1 / 2) |(n : Rat) - q| with far | close
  · exact near.trans far
  · -- Two integers that are less than one apart are the same.
    have apart : |((roundHalfEven q - n : Int) : Rat)| < 1 := by
      push_cast
      calc |(roundHalfEven q : Rat) - n| ≤ |(roundHalfEven q : Rat) - q| + |q - n| :=
            abs_sub_le _ _ _
        _ < 1 := by
            rw [abs_sub_comm q]
            linarith
    have same : roundHalfEven q = n := by
      have small : |roundHalfEven q - n| < 1 := by exact_mod_cast apart
      rw [Int.abs_lt_one_iff] at small
      omega
    rw [same]

/-! ## Magnitudes -/

/-- The magnitude of a number, without regard to the greatest exponent. -/
def IsMagnitude (q : Rat) : Prop :=
  ∃ (factor : Nat) (exponent : Int), factor < 2 ^ 53 ∧ -1074 ≤ exponent ∧ q = factor * twoPow exponent

theorem isMagnitude_zero : IsMagnitude 0 :=
  ⟨0, 0, by norm_num, by norm_num, by simp⟩

theorem IsMagnitude.nonneg {q : Rat} (isMagnitude : IsMagnitude q) : 0 ≤ q := by
  obtain ⟨factor, exponent, -, -, rfl⟩ := isMagnitude
  exact mul_nonneg (Nat.cast_nonneg factor) (twoPow_pos exponent).le

theorem IsMagnitude.roundMagnitude_eq {q : Rat} (isMagnitude : IsMagnitude q) : roundMagnitude q = q := by
  obtain ⟨factor, exponent, fits, normal, rfl⟩ := isMagnitude
  exact roundMagnitude_of_grid fits normal

theorem isMagnitude_half : IsMagnitude (1 / 2) :=
  ⟨1, -1, by norm_num, by norm_num, by norm_num [twoPow]⟩

theorem isMagnitude_roundMagnitude {q : Rat} (nonneg : 0 ≤ q) : IsMagnitude (roundMagnitude q) := by
  rcases nonneg.eq_or_lt with rfl | positive
  · simpa [roundMagnitude] using isMagnitude_zero
  have gridPositive := twoPow_pos (gridExponent q)
  have normal : -1074 ≤ gridExponent q := le_max_right _ _
  obtain ⟨steps, isSteps⟩ := Int.eq_ofNat_of_zero_le
    (roundHalfEven_nonneg (div_nonneg nonneg gridPositive.le))
  have bounded : steps ≤ 2 ^ 53 := by
    have below : q / twoPow (gridExponent q) < 2 ^ 53 :=
      (div_lt_iff₀ gridPositive).mpr (lt_gridSteps q positive)
    have near := roundHalfEven_le (q / twoPow (gridExponent q))
    rw [isSteps] at near
    have most : (steps : Rat) < (2 ^ 53 + 1 : Nat) := by
      push_cast at near ⊢
      linarith
    exact Nat.lt_succ_iff.mp (by exact_mod_cast most)
  have rounded : roundMagnitude q = steps * twoPow (gridExponent q) := by
    unfold roundMagnitude
    rw [if_neg positive.ne']
    dsimp only
    rw [isSteps]
    push_cast
    rfl
  rcases bounded.eq_or_lt with full | fits
  · -- The next power of two is on a coarser grid as well.
    refine ⟨2 ^ 52, gridExponent q + 1, by norm_num, by omega, ?_⟩
    rw [rounded, full, add_comm (gridExponent q), twoPow_add]
    norm_num [twoPow]
    ring
  · exact ⟨steps, gridExponent q, fits, normal, rounded⟩

/-- No point of its own grid is nearer to a magnitude than what it is rounded to. -/
theorem abs_roundMagnitude_sub_le_grid {q : Rat} (positive : 0 < q) (n : Int) :
    |roundMagnitude q - q| ≤ |n * twoPow (gridExponent q) - q| := by
  have gridPositive := twoPow_pos (gridExponent q)
  have scaled (m : Int) : |m * twoPow (gridExponent q) - q| =
      |(m : Rat) - q / twoPow (gridExponent q)| * twoPow (gridExponent q) := by
    rw [← abs_of_pos gridPositive, ← abs_mul, abs_of_pos gridPositive, sub_mul,
      div_mul_cancel₀ q gridPositive.ne']
  unfold roundMagnitude
  rw [if_neg positive.ne']
  dsimp only
  rw [scaled, scaled]
  exact mul_le_mul_of_nonneg_right (abs_roundHalfEven_sub_le _ n) gridPositive.le

/-- No magnitude is nearer to another one than what that is rounded to. -/
theorem abs_roundMagnitude_sub_le {p q : Rat} (nonneg : 0 ≤ q) (isMagnitude : IsMagnitude p) :
    |roundMagnitude q - q| ≤ |p - q| := by
  rcases nonneg.eq_or_lt with rfl | positive
  · simp [roundMagnitude]
  obtain ⟨factor, exponent, fits, normal, rfl⟩ := isMagnitude
  rcases le_or_gt (gridExponent q) exponent with coarse | fine
  · obtain ⟨shift, shifted⟩ := Int.eq_ofNat_of_zero_le (sub_nonneg.mpr coarse)
    have onGrid : (factor * twoPow exponent : Rat) =
        ((factor * 2 ^ shift : Nat) : Int) * twoPow (gridExponent q) := by
      have split : exponent = ((shift : Nat) : Int) + gridExponent q := by omega
      rw [split, twoPow_add, twoPow_natCast]
      push_cast
      ring
    rw [onGrid]
    exact abs_roundMagnitude_sub_le_grid positive _
  · -- A magnitude with a finer grid lies below a power of two that is on the grid and not above `q`.
    have grid : gridExponent q = floorLog2 q - 52 := by
      unfold gridExponent at fine ⊢
      omega
    have powerOnGrid : ((2 ^ 52 : Int) : Rat) * twoPow (gridExponent q) = twoPow (floorLog2 q) := by
      rw [grid, show floorLog2 q = ((52 : Nat) : Int) + (floorLog2 q - 52) by omega, twoPow_add,
        twoPow_natCast]
      push_cast
      congr 2
      omega
    have under : (factor * twoPow exponent : Rat) ≤ twoPow (floorLog2 q) := by
      calc (factor * twoPow exponent : Rat) ≤ 2 ^ 53 * twoPow exponent :=
            mul_le_mul_of_nonneg_right (by exact_mod_cast fits.le) (twoPow_pos _).le
        _ = twoPow (((53 : Nat) : Int) + exponent) := by rw [twoPow_add, twoPow_natCast]
        _ ≤ twoPow (floorLog2 q) := twoPow_mono (by omega)
    have below := floorLog2_le q positive
    calc |roundMagnitude q - q| ≤ |((2 ^ 52 : Int) : Rat) * twoPow (gridExponent q) - q| :=
          abs_roundMagnitude_sub_le_grid positive _
      _ = q - twoPow (floorLog2 q) := by
          rw [powerOnGrid, abs_of_nonpos (by linarith), neg_sub]
      _ ≤ q - factor * twoPow exponent := by linarith
      _ ≤ |factor * twoPow exponent - q| := by
          rw [abs_sub_comm]
          exact le_abs_self _

/-! ## What is rounded to zero -/

theorem gridExponent_of_tiny {q : Rat} (positive : 0 < q) (tiny : q ≤ twoPow (-1075)) :
    gridExponent q = -1074 := by
  have below : q < twoPow (-1074 + 53) := by
    have wide : twoPow (-1075) < twoPow (-1074 + 53) := by
      unfold twoPow
      exact zpow_lt_zpow_right₀ (by norm_num) (by norm_num)
    exact tiny.trans_lt wide
  exact le_antisymm (gridExponent_le positive below le_rfl) (le_max_right _ _)

/-- The smallest magnitude above zero is `2 ^ (-1074)`, and what lies half way to it goes down. -/
theorem roundMagnitude_eq_zero_iff {q : Rat} (nonneg : 0 ≤ q) :
    roundMagnitude q = 0 ↔ q ≤ twoPow (-1075) := by
  have double : twoPow (-1074) = 2 * twoPow (-1075) := by
    rw [show (-1074 : Int) = ((1 : Nat) : Int) + -1075 by norm_num, twoPow_add, twoPow_natCast, pow_one]
  have positiveStep := twoPow_pos (-1075)
  constructor
  · intro zero
    have smallest : IsMagnitude (twoPow (-1074)) := ⟨1, -1074, by norm_num, le_rfl, by simp⟩
    have near := abs_roundMagnitude_sub_le nonneg smallest
    rw [zero, zero_sub, abs_neg, abs_of_nonneg nonneg, double] at near
    rcases le_total q (2 * twoPow (-1075)) with below | above
    · rw [abs_of_nonneg (by linarith)] at near
      linarith
    · rw [abs_of_nonpos (by linarith)] at near
      linarith
  · intro tiny
    rcases nonneg.eq_or_lt with rfl | positive
    · simp [roundMagnitude]
    unfold roundMagnitude
    rw [if_neg positive.ne', gridExponent_of_tiny positive tiny]
    dsimp only
    -- In steps of the grid the magnitude is one half at most, which goes to the even neighbour.
    have half : q / twoPow (-1074) ≤ 1 / 2 := by
      rw [div_le_iff₀ (twoPow_pos _), double]
      linarith
    have steps : roundHalfEven (q / twoPow (-1074)) = 0 := by
      have floored : (q / twoPow (-1074)).floor = 0 := by
        have low : 0 ≤ (q / twoPow (-1074)).floor :=
          Rat.le_floor_iff.mpr (by simpa using div_nonneg nonneg (twoPow_pos (-1074)).le)
        have high : ¬ 1 ≤ (q / twoPow (-1074)).floor := by
          rw [Rat.le_floor_iff]
          push_cast
          linarith
        omega
      unfold roundHalfEven
      simp only [floored, Int.cast_zero, sub_zero]
      rw [if_neg (not_lt.mpr half)]
      simp
    rw [steps, Int.cast_zero, zero_mul]

/-! ## Rationals with a sign -/

theorem overflowBound_pos : 0 < overflowBound :=
  twoPow_pos 1024

theorem roundMagnitude_zero : roundMagnitude 0 = 0 :=
  isMagnitude_zero.roundMagnitude_eq

/-- What a rational is rounded to. -/
def rounded (q : Rat) : Rat :=
  if q < 0 then -roundMagnitude (-q) else roundMagnitude q

theorem abs_rounded (q : Rat) : |rounded q| = roundMagnitude |q| := by
  unfold rounded
  split
  · rename_i negative
    rw [abs_neg, abs_of_neg negative, abs_of_nonneg (roundMagnitude_nonneg (by linarith))]
  · rename_i nonneg
    rw [abs_of_nonneg (not_lt.mp nonneg), abs_of_nonneg (roundMagnitude_nonneg (not_lt.mp nonneg))]

/-- No number is nearer to a rational than what that is rounded to. -/
theorem abs_rounded_sub_le {number : Rat} (isMagnitude : IsMagnitude |number|) (q : Rat) :
    |rounded q - q| ≤ |number - q| := by
  have near := (abs_roundMagnitude_sub_le (abs_nonneg q) isMagnitude).trans (abs_abs_sub_abs_le number q)
  unfold rounded
  split
  · rename_i negative
    rw [abs_of_neg negative] at near
    rwa [← abs_neg, neg_sub', neg_neg]
  · rename_i nonneg
    rwa [abs_of_nonneg (not_lt.mp nonneg)] at near

/-- Adding to a number moves it by at most twice what is added. -/
theorem abs_rounded_add_le {number : Rat} (isMagnitude : IsMagnitude |number|) (added : Rat) :
    |rounded (number + added)| ≤ |number| + 2 * |added| := by
  have near := abs_rounded_sub_le isMagnitude (number + added)
  have step : number - (number + added) = -added := by ring
  rw [step, abs_neg] at near
  calc |rounded (number + added)|
      = |rounded (number + added) - (number + added) + (number + added)| := by rw [sub_add_cancel]
    _ ≤ |rounded (number + added) - (number + added)| + |number + added| := abs_add_le _ _
    _ ≤ |added| + (|number| + |added|) := add_le_add near (abs_add_le number added)
    _ = |number| + 2 * |added| := by ring

/-- Rounding at most doubles a rational. -/
theorem abs_rounded_le (q : Rat) : |rounded q| ≤ 2 * |q| := by
  have isZero : IsMagnitude |(0 : Rat)| := by
    rw [abs_zero]
    exact isMagnitude_zero
  have doubled := abs_rounded_add_le isZero q
  rwa [zero_add, abs_zero, zero_add] at doubled

theorem rounded_of_isMagnitude {q : Rat} (isMagnitude : IsMagnitude |q|) : rounded q = q := by
  have near := abs_rounded_sub_le isMagnitude q
  rw [sub_self, abs_zero] at near
  exact sub_eq_zero.mp (abs_nonpos_iff.mp near)

theorem rounded_zero : rounded 0 = 0 :=
  rounded_of_isMagnitude (by simpa using isMagnitude_zero)

theorem isMagnitude_intCast {n : Int} (fits : n.natAbs < 2 ^ 53) : IsMagnitude |(n : Rat)| := by
  refine ⟨n.natAbs, 0, fits, by norm_num, ?_⟩
  rw [abs_intCast]
  simp [twoPow]

theorem rounded_intCast {n : Int} (fits : n.natAbs < 2 ^ 53) : rounded n = n :=
  rounded_of_isMagnitude (isMagnitude_intCast fits)

/-- Only what is rounded to zero loses its sign. -/
theorem rounded_nonneg_iff (q : Rat) : 0 ≤ rounded q ↔ -twoPow (-1075) ≤ q := by
  have positiveStep := twoPow_pos (-1075)
  unfold rounded
  split
  · rename_i negative
    have opposite : 0 ≤ -q := by linarith
    have nonneg := roundMagnitude_nonneg opposite
    rw [neg_nonneg, nonneg.ge_iff_eq', roundMagnitude_eq_zero_iff opposite]
    constructor <;> intro <;> linarith
  · rename_i nonneg
    simp only [roundMagnitude_nonneg (not_lt.mp nonneg), true_iff]
    linarith

theorem nearest_abs (q : Rat) : nearest (decide (q < 0)) |q| = ofRat false q := by
  unfold ofRat
  split
  · rename_i zero
    subst zero
    unfold nearest
    rw [abs_zero, roundMagnitude_zero, if_pos overflowBound_pos]
    rfl
  · split
    · rename_i negative
      rw [decide_eq_true negative, abs_of_neg negative]
    · rename_i nonneg
      rw [decide_eq_false nonneg, abs_of_nonneg (not_lt.mp nonneg)]

/-! ## The value of a number -/

/-- A finite number with its value. -/
def HasValue (x : Binary64) (value : Rat) : Prop :=
  ∃ negative magnitude, x = .finite negative magnitude ∧ signed negative magnitude = value ∧
    IsMagnitude magnitude ∧ magnitude < overflowBound

theorem abs_signed (negative : Bool) (q : Rat) : |signed negative q| = |q| := by
  cases negative
  · rfl
  · exact abs_neg q

theorem rounded_signed {q : Rat} (nonneg : 0 ≤ q) (negative : Bool) :
    rounded (signed negative q) = signed negative (roundMagnitude q) := by
  unfold rounded
  cases negative with
  | false => exact if_neg (not_lt.mpr nonneg)
  | true =>
    simp only [signed, if_true]
    -- Zero has no other sign among the rationals.
    rcases nonneg.eq_or_lt with rfl | positive
    · rw [neg_zero, if_neg (lt_irrefl 0), roundMagnitude_zero, neg_zero]
    · rw [if_pos (by linarith), neg_neg]

theorem HasValue.isMagnitude {x : Binary64} {value : Rat} (hasValue : x.HasValue value) :
    IsMagnitude |value| := by
  obtain ⟨negative, magnitude, -, rfl, isMagnitude, -⟩ := hasValue
  rwa [abs_signed, abs_of_nonneg isMagnitude.nonneg]

theorem HasValue.abs_lt {x : Binary64} {value : Rat} (hasValue : x.HasValue value) :
    |value| < overflowBound := by
  obtain ⟨negative, magnitude, -, rfl, isMagnitude, finite⟩ := hasValue
  rwa [abs_signed, abs_of_nonneg isMagnitude.nonneg]

/-- The value of a number that is not negative is its magnitude. -/
theorem HasValue.eq_finite {x : Binary64} {value bound : Rat} (hasValue : x.HasValue value)
    (atMost : AtMost bound x) : x = .finite false value := by
  obtain ⟨magnitude, rfl, -, -⟩ := atMost
  obtain ⟨negative, other, same, rfl, -, -⟩ := hasValue
  cases same
  rfl

theorem HasValue.toRat? {x : Binary64} {value : Rat} (hasValue : x.HasValue value) :
    x.toRat? = some value := by
  obtain ⟨negative, magnitude, rfl, rfl, -, -⟩ := hasValue
  cases negative <;> rfl

theorem IsMagnitude.hasValue {q : Rat} (isMagnitude : IsMagnitude q) (small : q < 2 ^ 53) :
    (finite false q).HasValue q := by
  have wide : twoPow 53 ≤ overflowBound := twoPow_mono (by norm_num)
  rw [show (53 : Int) = ((53 : Nat) : Int) from rfl, twoPow_natCast] at wide
  exact ⟨false, q, rfl, rfl, isMagnitude, small.trans_le wide⟩

theorem zero_hasValue : zero.HasValue 0 :=
  ⟨false, 0, rfl, rfl, isMagnitude_zero, overflowBound_pos⟩

theorem half_hasValue : half.HasValue (1 / 2) := by
  have finite : twoPow (-1) < overflowBound := by
    unfold overflowBound twoPow
    exact zpow_lt_zpow_right₀ (by norm_num) (by norm_num)
  refine ⟨false, 1 / 2, rfl, rfl, isMagnitude_half, ?_⟩
  simpa [twoPow] using finite

theorem nearest_hasValue {negative : Bool} {magnitude : Rat} (nonneg : 0 ≤ magnitude)
    (finite : roundMagnitude magnitude < overflowBound) :
    (nearest negative magnitude).HasValue (signed negative (roundMagnitude magnitude)) := by
  refine ⟨negative, roundMagnitude magnitude, ?_, rfl, isMagnitude_roundMagnitude nonneg, finite⟩
  unfold nearest
  dsimp only
  rw [if_pos finite]

theorem ofRat_hasValue {zeroSign : Bool} {q : Rat} (finite : |rounded q| < overflowBound) :
    (ofRat zeroSign q).HasValue (rounded q) := by
  unfold ofRat
  split
  · rename_i zero
    subst zero
    refine ⟨zeroSign, 0, rfl, ?_, isMagnitude_zero, overflowBound_pos⟩
    cases zeroSign <;> simp [signed, rounded, roundMagnitude]
  · rw [abs_rounded] at finite
    unfold rounded
    split
    · rename_i negative
      rw [abs_of_neg negative] at finite
      exact nearest_hasValue (by linarith) finite
    · rename_i nonneg
      rw [abs_of_nonneg (not_lt.mp nonneg)] at finite
      exact nearest_hasValue (not_lt.mp nonneg) finite

/-! ## Operations -/

theorem HasValue.add_of_finite {x y : Binary64} {number added : Rat} (left : x.HasValue number)
    (right : y.HasValue added) (finite : |rounded (number + added)| < overflowBound) :
    (x.add y).HasValue (rounded (number + added)) := by
  obtain ⟨s, p, rfl, rfl, -, -⟩ := left
  obtain ⟨t, q, rfl, rfl, -, -⟩ := right
  exact ofRat_hasValue finite

theorem HasValue.add {x y : Binary64} {number added : Rat} (left : x.HasValue number)
    (right : y.HasValue added) (small : |number| + 2 * |added| < overflowBound) :
    (x.add y).HasValue (rounded (number + added)) :=
  left.add_of_finite right ((abs_rounded_add_le left.isMagnitude added).trans_lt small)

theorem HasValue.neg {x : Binary64} {value : Rat} (hasValue : x.HasValue value) : x.neg.HasValue (-value) := by
  obtain ⟨negative, magnitude, rfl, rfl, isMagnitude, finite⟩ := hasValue
  refine ⟨!negative, magnitude, rfl, ?_, isMagnitude, finite⟩
  cases negative <;> simp [signed]

theorem ofInt_of_finite {n : Int} (finite : |rounded n| < overflowBound) :
    ∃ x, ofInt n = .ok x ∧ x.HasValue (rounded n) := by
  have value : (ofRat false (n : Rat)).HasValue (rounded n) := ofRat_hasValue finite
  obtain ⟨negative, magnitude, same, -⟩ := id value
  refine ⟨_, ?_, value⟩
  unfold ofInt
  rw [same]

theorem ofInt_hasValue {n : Int} (small : 2 * |(n : Rat)| < overflowBound) :
    ∃ x, ofInt n = .ok x ∧ x.HasValue (rounded n) :=
  ofInt_of_finite ((abs_rounded_le n).trans_lt small)

/-- An integer that fits 53 bits is converted without a loss. -/
theorem ofInt_of_fits {n : Int} (fits : n.natAbs < 2 ^ 53) : ∃ x, ofInt n = .ok x ∧ x.HasValue n := by
  have exact := rounded_intCast fits
  have finite : |rounded n| < overflowBound := by
    rw [exact, abs_intCast]
    exact natCast_lt_overflowBound fits
  obtain ⟨x, converted, hasValue⟩ := ofInt_of_finite finite
  exact ⟨x, converted, by rwa [exact] at hasValue⟩

/-- The magnitude of a quotient with its sign is the quotient. -/
theorem nearest_quotient {a b : Int} (positive : 0 < b) :
    nearest (decide (a < 0) != decide (b < 0)) (a.natAbs / b.natAbs : Rat) = ofRat false (a / b) := by
  have denominator : (0 : Rat) < b := by exact_mod_cast positive
  have sign : (decide (a < 0) != decide (b < 0)) = decide ((a / b : Rat) < 0) := by
    simp [not_lt.mpr positive.le, div_neg_iff, denominator, not_lt.mpr denominator.le]
  have quotient : (a.natAbs / b.natAbs : Rat) = |(a / b : Rat)| := by
    rw [abs_div, abs_intCast, abs_intCast]
  rw [sign, quotient, nearest_abs]

theorem ofQuotient_of_finite {a b : Int} (positive : 0 < b) (finite : |rounded (a / b)| < overflowBound) :
    ∃ x, ofQuotient a b = .ok x ∧ x.HasValue (rounded (a / b)) := by
  have value : (ofRat false (a / b : Rat)).HasValue (rounded (a / b)) := ofRat_hasValue finite
  obtain ⟨negative, magnitude, same, -⟩ := id value
  refine ⟨_, ?_, value⟩
  unfold ofQuotient
  rw [nearest_quotient positive, same]

theorem ofQuotient_hasValue {a b : Int} (positive : 0 < b) (small : 2 * |(a / b : Rat)| < overflowBound) :
    ∃ x, ofQuotient a b = .ok x ∧ x.HasValue (rounded (a / b)) :=
  ofQuotient_of_finite positive ((abs_rounded_le _).trans_lt small)

theorem HasValue.divNat {x : Binary64} {value : Rat} (hasValue : x.HasValue value) {n : Nat}
    (many : 2 ≤ n) : (x.divNat n).HasValue (rounded (value / n)) := by
  obtain ⟨negative, magnitude, rfl, rfl, isMagnitude, finite⟩ := hasValue
  have nonneg := isMagnitude.nonneg
  have divisor : (2 : Rat) ≤ n := by exact_mod_cast many
  have quotientNonneg : 0 ≤ magnitude / n := div_nonneg nonneg (by linarith)
  have bounded : roundMagnitude (magnitude / n) < overflowBound := by
    have doubled := abs_rounded_le (magnitude / n)
    rw [abs_rounded, abs_of_nonneg quotientNonneg] at doubled
    have half : magnitude / n ≤ magnitude / 2 :=
      div_le_div_of_nonneg_left nonneg (by norm_num) divisor
    linarith
  have quotient : signed negative magnitude / n = signed negative (magnitude / n) := by
    cases negative <;> simp [signed, neg_div]
  rw [quotient, rounded_signed quotientNonneg]
  exact nearest_hasValue quotientNonneg bounded

theorem HasValue.mul_eq {x y : Binary64} {number factor : Rat} (left : x.HasValue number)
    (right : y.HasValue factor) :
    ∃ negative magnitude, x.mul y = nearest negative magnitude ∧ 0 ≤ magnitude ∧
      rounded (number * factor) = signed negative (roundMagnitude magnitude) := by
  obtain ⟨s, p, rfl, rfl, pMagnitude, -⟩ := left
  obtain ⟨t, q, rfl, rfl, qMagnitude, -⟩ := right
  have nonneg : 0 ≤ p * q := mul_nonneg pMagnitude.nonneg qMagnitude.nonneg
  have product : signed s p * signed t q = signed (s != t) (p * q) := by
    cases s <;> cases t <;> simp [signed]
  exact ⟨s != t, p * q, rfl, nonneg, by rw [product, rounded_signed nonneg]⟩

theorem HasValue.mul {x y : Binary64} {number factor : Rat} (left : x.HasValue number)
    (right : y.HasValue factor) (finite : |rounded (number * factor)| < overflowBound) :
    (x.mul y).HasValue (rounded (number * factor)) := by
  obtain ⟨negative, magnitude, product, nonneg, value⟩ := left.mul_eq right
  rw [value, abs_signed, abs_of_nonneg (roundMagnitude_nonneg nonneg)] at finite
  rw [product, value]
  exact nearest_hasValue nonneg finite

/-- A product beyond the greatest number is infinite. -/
theorem HasValue.mul_infinite {x y : Binary64} {number factor : Rat} (left : x.HasValue number)
    (right : y.HasValue factor) (overflow : overflowBound ≤ |rounded (number * factor)|) :
    ∃ negative, x.mul y = .infinite negative := by
  obtain ⟨negative, magnitude, product, nonneg, value⟩ := left.mul_eq right
  rw [value, abs_signed, abs_of_nonneg (roundMagnitude_nonneg nonneg)] at overflow
  refine ⟨negative, ?_⟩
  rw [product, nearest]
  exact if_neg (not_lt.mpr overflow)

theorem HasValue.floor {x : Binary64} {value : Rat} (hasValue : x.HasValue value) :
    x.floor = .ok value.floor :=
  floor_of_toRat? hasValue.toRat?

theorem HasValue.floor_nonneg {x : Binary64} {value : Rat} (hasValue : x.HasValue value)
    (nonneg : 0 ≤ value) {whole : Int} (floored : x.floor = .ok whole) : 0 ≤ whole := by
  rw [hasValue.floor] at floored
  cases floored
  exact Rat.le_floor_iff.mpr (by exact_mod_cast nonneg)

/-! ## Results that may overflow -/

theorem abs_rounded_lt_of_finite {zeroSign negative : Bool} {q magnitude : Rat}
    (computed : ofRat zeroSign q = .finite negative magnitude) : |rounded q| < overflowBound := by
  rw [abs_rounded]
  unfold ofRat nearest at computed
  dsimp only at computed
  split at computed
  · rename_i zero
    rw [zero, abs_zero, roundMagnitude_zero]
    exact overflowBound_pos
  · split at computed
    · rename_i below
      rw [abs_of_neg below]
      split at computed
      · assumption
      · cases computed
    · rename_i nonneg
      rw [abs_of_nonneg (not_lt.mp nonneg)]
      split at computed
      · assumption
      · cases computed

/-- A number that has a value unless it is infinite or no number at all. -/
def Valid (x : Binary64) : Prop :=
  ∀ negative magnitude, x = .finite negative magnitude → ∃ value, x.HasValue value

theorem Valid.divNat {x : Binary64} (valid : x.Valid) {n : Nat} (many : 2 ≤ n) : (x.divNat n).Valid := by
  intro negative magnitude computed
  cases x with
  | finite s p =>
    obtain ⟨value, hasValue⟩ := valid s p rfl
    exact ⟨_, hasValue.divNat many⟩
  | infinite s => cases computed
  | nan => cases computed

/-- Where the quotient of a number is rounded down, the number has a value. -/
theorem Valid.hasValue {x : Binary64} (valid : x.Valid) {n : Nat} {whole : Int}
    (floored : (x.divNat n).floor = .ok whole) : ∃ value, x.HasValue value := by
  cases x with
  | finite negative magnitude => exact valid negative magnitude rfl
  | infinite negative => cases floored
  | nan => cases floored

/-- A quotient that is computed has a value. -/
theorem hasValue_of_ofQuotient {a b : Int} {x : Binary64} (computed : ofQuotient a b = .ok x)
    (positive : 0 < b) : x.HasValue (rounded (a / b)) := by
  unfold ofQuotient at computed
  rw [nearest_quotient positive] at computed
  cases quotient : ofRat false (a / b : Rat) with
  | finite s q =>
    rw [quotient] at computed
    cases computed
    rw [← quotient]
    exact ofRat_hasValue (abs_rounded_lt_of_finite quotient)
  | infinite s =>
    rw [quotient] at computed
    cases computed
  | nan =>
    rw [quotient] at computed
    cases computed

/-- A finite number is rounded to an integer. -/
theorem HasValue.roundHalfUp {x : Binary64} {value : Rat} (hasValue : x.HasValue value)
    (small : |value| + 1 < overflowBound) : ∃ n, x.roundHalfUp = .ok n := by
  have sum := hasValue.add half_hasValue (by
    rw [abs_of_pos (by norm_num : (0 : Rat) < 1 / 2)]
    linarith)
  exact ⟨_, sum.floor⟩

end ProjectGauge.Binary64
