import ProjectGauge.Proofs.Number.Rounding

/-!
# Numbers that rounding leaves alone

A multiple of a power of two whose factor fits 53 bits is a binary64 number, so rounding gives it back.
In particular whole numbers below `2 ^ 53` are added without an error, and those below `2 ^ 52` are rounded
half up to themselves.

* `roundMagnitude_of_grid` is the one fact about rounding; everything else follows from it.
* `IsWhole` says that a number has a whole value; `IsWhole.add`, `ofInt_isWhole` and `IsWhole.roundHalfUp`
  carry it through the operations.
-/

namespace ProjectGauge.Binary64

/-! ## Rounding on the grid -/

theorem roundHalfEven_intCast (n : Int) : roundHalfEven (n : Rat) = n := by
  unfold roundHalfEven
  simp only [Rat.floor_intCast, sub_self]
  rw [if_pos (by norm_num)]

/-- The grid of a magnitude below `2 ^ (exponent + 53)` divides `2 ^ exponent`. -/
theorem gridExponent_le {q : Rat} {exponent : Int} (positive : 0 < q)
    (below : q < twoPow (exponent + 53)) (normal : -1074 ≤ exponent) : gridExponent q ≤ exponent := by
  have log : floorLog2 q < exponent + 53 := by
    by_contra tooHigh
    have high : twoPow (exponent + 53) ≤ twoPow (floorLog2 q) := twoPow_mono (by omega)
    exact absurd (high.trans (floorLog2_le q positive)) (not_le.mpr below)
  unfold gridExponent
  omega

/-- A multiple of a power of two is not rounded if its factor fits 53 bits. -/
theorem roundMagnitude_of_grid {factor : Nat} {exponent : Int} (fits : factor < 2 ^ 53)
    (normal : -1074 ≤ exponent) :
    roundMagnitude (factor * twoPow exponent) = factor * twoPow exponent := by
  by_cases none : factor = 0
  · simp [none, roundMagnitude]
  have positive : (0 : Rat) < factor * twoPow exponent :=
    mul_pos (by exact_mod_cast Nat.pos_of_ne_zero none) (twoPow_pos exponent)
  have below : (factor * twoPow exponent : Rat) < twoPow (exponent + 53) := by
    rw [add_comm, twoPow_add, show (53 : Int) = ((53 : Nat) : Int) from rfl, twoPow_natCast]
    exact mul_lt_mul_of_pos_right (by exact_mod_cast fits) (twoPow_pos exponent)
  have finer := gridExponent_le positive below normal
  -- In steps of its own grid the magnitude is a whole number.
  obtain ⟨shift, shifted⟩ := Int.eq_ofNat_of_zero_le (sub_nonneg.mpr finer)
  have split : twoPow exponent =
      2 ^ shift * twoPow (gridExponent (factor * twoPow exponent)) := by
    rw [← twoPow_natCast, ← twoPow_add]
    congr 1
    omega
  have steps : (factor * twoPow exponent : Rat) / twoPow (gridExponent (factor * twoPow exponent)) =
      ((factor * 2 ^ shift : Nat) : Int) := by
    rw [div_eq_iff (twoPow_pos _).ne']
    push_cast
    rw [mul_assoc, ← split]
  unfold roundMagnitude
  rw [if_neg positive.ne']
  dsimp only
  rw [steps, roundHalfEven_intCast, ← steps, div_mul_cancel₀ _ (twoPow_pos _).ne']

theorem toRat?_nearest {negative : Bool} {q : Rat} (exact : roundMagnitude q = q)
    (finite : q < overflowBound) : (nearest negative q).toRat? = some (signed negative q) := by
  unfold nearest
  dsimp only
  rw [exact, if_pos finite]
  cases negative <;> rfl

theorem natCast_lt_overflowBound {n : Nat} (fits : n < 2 ^ 53) : (n : Rat) < overflowBound := by
  have wide : twoPow 53 ≤ overflowBound := twoPow_mono (by norm_num)
  have narrow : (n : Rat) < 2 ^ 53 := by exact_mod_cast fits
  rw [show (53 : Int) = ((53 : Nat) : Int) from rfl, twoPow_natCast] at wide
  exact lt_of_lt_of_le narrow wide

theorem toRat?_nearest_natCast {negative : Bool} {n : Nat} (fits : n < 2 ^ 53) :
    (nearest negative (n : Rat)).toRat? = some (signed negative n) := by
  apply toRat?_nearest _ (natCast_lt_overflowBound fits)
  simpa [twoPow] using roundMagnitude_of_grid fits (by norm_num : (-1074 : Int) ≤ 0)

/-- Halves of whole numbers are not rounded either. -/
theorem toRat?_nearest_half {negative : Bool} {n : Nat} (fits : n < 2 ^ 53) :
    (nearest negative ((n : Rat) / 2)).toRat? = some (signed negative ((n : Rat) / 2)) := by
  have nonneg : (0 : Rat) ≤ n := Nat.cast_nonneg n
  have bounded : (n : Rat) < overflowBound := natCast_lt_overflowBound fits
  apply toRat?_nearest _ (by linarith)
  simpa [twoPow, div_eq_mul_inv] using roundMagnitude_of_grid fits (by norm_num : (-1074 : Int) ≤ -1)

/-! ## Rationals with a sign -/

/-- What is given back for both signs of a magnitude is given back for the rational. -/
theorem toRat?_ofRat {zeroSign : Bool} {q magnitude : Rat} (isMagnitude : |q| = magnitude)
    (exact : ∀ negative, (nearest negative magnitude).toRat? = some (signed negative magnitude)) :
    (ofRat zeroSign q).toRat? = some q := by
  unfold ofRat
  split
  · rename_i zero
    cases zeroSign <;> simp [toRat?, zero]
  · split
    · rename_i negative
      rw [abs_of_neg negative] at isMagnitude
      rw [isMagnitude, exact, ← isMagnitude]
      exact congrArg some (neg_neg q)
    · rename_i nonneg
      rw [abs_of_nonneg (not_lt.mp nonneg)] at isMagnitude
      rw [isMagnitude, exact]
      rfl

theorem abs_intCast (n : Int) : |(n : Rat)| = (n.natAbs : Nat) := by
  rw [Nat.cast_natAbs, Int.cast_abs]

theorem toRat?_ofRat_intCast {zeroSign : Bool} {n : Int} (fits : n.natAbs < 2 ^ 53) :
    (ofRat zeroSign (n : Rat)).toRat? = some (n : Rat) :=
  toRat?_ofRat (abs_intCast n) fun _ => toRat?_nearest_natCast fits

theorem toRat?_ofRat_half {zeroSign : Bool} {n : Int} (fits : n.natAbs < 2 ^ 53) :
    (ofRat zeroSign ((n : Rat) / 2)).toRat? = some ((n : Rat) / 2) := by
  have magnitude : |(n : Rat) / 2| = (n.natAbs : Nat) / 2 := by
    rw [abs_div, abs_intCast, abs_of_pos (by norm_num : (0 : Rat) < 2)]
  exact toRat?_ofRat magnitude fun _ => toRat?_nearest_half fits

/-! ## Whole numbers -/

/-- A number whose value is a whole one. -/
def IsWhole (n : Int) (x : Binary64) : Prop :=
  x.toRat? = some (n : Rat)

theorem zero_isWhole : IsWhole 0 zero := rfl

theorem IsWhole.finite {n : Int} {x : Binary64} (whole : IsWhole n x) :
    ∃ negative q, x = .finite negative q ∧ signed negative q = n := by
  unfold IsWhole at whole
  cases x with
  | finite negative q => cases negative <;> exact ⟨_, q, rfl, Option.some.inj whole⟩
  | infinite negative => cases whole
  | nan => cases whole

theorem IsWhole.add {m n : Int} {x y : Binary64} (left : IsWhole m x) (right : IsWhole n y)
    (fits : (m + n).natAbs < 2 ^ 53) : IsWhole (m + n) (x.add y) := by
  obtain ⟨s, p, rfl, pValue⟩ := left.finite
  obtain ⟨t, q, rfl, qValue⟩ := right.finite
  unfold IsWhole
  simp only [Binary64.add]
  rw [pValue, qValue, ← Int.cast_add]
  exact toRat?_ofRat_intCast fits

theorem ofInt_isWhole {n : Int} (fits : n.natAbs < 2 ^ 53) : ∃ x, ofInt n = .ok x ∧ IsWhole n x := by
  have whole : IsWhole n (ofRat false (n : Rat)) := toRat?_ofRat_intCast fits
  obtain ⟨s, q, same, -⟩ := whole.finite
  refine ⟨.finite s q, ?_, same ▸ whole⟩
  unfold ofInt
  rw [same]

theorem floor_half_odd (n : Int) : (((2 * n + 1 : Int) : Rat) / 2).floor = n := by
  have low : n ≤ (((2 * n + 1 : Int) : Rat) / 2).floor := by
    rw [Rat.le_floor_iff]
    push_cast
    linarith
  have high : ¬ n + 1 ≤ (((2 * n + 1 : Int) : Rat) / 2).floor := by
    rw [Rat.le_floor_iff]
    push_cast
    linarith
  omega

theorem floor_of_toRat? {x : Binary64} {q : Rat} (value : x.toRat? = some q) : x.floor = .ok q.floor := by
  cases x with
  | finite negative magnitude =>
    cases negative <;> exact congrArg (fun r : Rat => Except.ok r.floor) (Option.some.inj value)
  | infinite negative => cases value
  | nan => cases value

/-- The half is added without an error, and rounding down takes it away. -/
theorem IsWhole.roundHalfUp {n : Int} {x : Binary64} (whole : IsWhole n x) (fits : n.natAbs < 2 ^ 52) :
    x.roundHalfUp = .ok n := by
  obtain ⟨s, q, rfl, value⟩ := whole.finite
  have sum : signed s q + signed false (1 / 2) = ((2 * n + 1 : Int) : Rat) / 2 := by
    rw [value]
    simp only [signed, Bool.false_eq_true, if_false]
    push_cast
    ring
  unfold Binary64.roundHalfUp half
  simp only [Binary64.add]
  rw [sum, floor_of_toRat? (toRat?_ofRat_half (by omega)), floor_half_odd]

end ProjectGauge.Binary64
