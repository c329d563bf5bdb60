import ProjectGauge.Proofs.Number.HalfUp
import ProjectGauge.Report.Bar

/-!
# Bars of any width

The cells of a count are the multiple of its share that the width makes of it, rounded half up.  The quotient,
the multiple and the sum with one half are rounded, but rounding keeps the order and leaves zero and the width
alone.  So the cells grow with the count, from none to the width or one more, which the bar cuts off.

* `multiple` is what the share of a count comes to, and `share_of_nonneg` says which cells are computed of it.
* `rankingBar_fills` says how far the bars of a width are filled.
-/

namespace ProjectGauge.Report

open Binary64

variable {count greatest : Int}

/-! ## Multiples of a share -/

/-- A multiple of the share of a count as it is computed. -/
def multiple (factor : Nat) (count greatest : Int) : Rat :=
  rounded (rounded (count / greatest) * factor)

theorem multiple_mono (factor : Nat) {more : Int} (ordered : count ≤ more) (nonneg : 0 ≤ greatest) :
    multiple factor count greatest ≤ multiple factor more greatest := by
  have shares : (count / greatest : Rat) ≤ more / greatest :=
    div_le_div_of_nonneg_right (by exact_mod_cast ordered) (by exact_mod_cast nonneg)
  exact rounded_mono (mul_le_mul_of_nonneg_right (rounded_mono shares) (Nat.cast_nonneg factor))

theorem multiple_zero (factor : Nat) (greatest : Int) : multiple factor 0 greatest = 0 := by
  simp [multiple, rounded_zero]

/-- Without a greatest count there are no shares. -/
theorem multiple_none (factor : Nat) (count : Int) : multiple factor count 0 = 0 := by
  simp [multiple, rounded_zero]

theorem multiple_self {factor : Nat} (fits : factor < 2 ^ 53) (positive : 0 < greatest) :
    multiple factor greatest greatest = factor := by
  have nonzero : (greatest : Rat) ≠ 0 := by exact_mod_cast positive.ne'
  have one : rounded 1 = 1 := by exact_mod_cast rounded_intCast (n := 1) (by decide)
  rw [multiple, div_self nonzero, one, one_mul, rounded_of_isMagnitude (isMagnitude_natCast fits)]

theorem multiple_le {factor : Nat} (fits : factor < 2 ^ 53) (atMost : count ≤ greatest) (nonneg : 0 ≤ greatest) :
    multiple factor count greatest ≤ factor := by
  rcases nonneg.eq_or_lt with rfl | positive
  · rw [multiple_none]
    exact Nat.cast_nonneg factor
  · exact (multiple_mono factor atMost nonneg).trans_eq (multiple_self fits positive)

theorem multiple_nonneg (factor : Nat) (nonneg : 0 ≤ count) (greatestNonneg : 0 ≤ greatest) :
    0 ≤ multiple factor count greatest := by
  rw [← multiple_zero factor greatest]
  exact multiple_mono factor nonneg greatestNonneg

theorem abs_multiple_lt {factor : Nat} (fits : factor < 2 ^ 53) (nonneg : 0 ≤ count) (atMost : count ≤ greatest) :
    |multiple factor count greatest| < overflowBound := by
  have greatestNonneg : 0 ≤ greatest := nonneg.trans atMost
  rw [abs_of_nonneg (multiple_nonneg factor nonneg greatestNonneg)]
  exact (multiple_le fits atMost greatestNonneg).trans_lt (natCast_lt_overflowBound fits)

/-! ## What is computed -/

/-- The cells of a count as they are computed, before a bar is cut off at its width. -/
def computedCells (width : Nat) (count greatest : Int) : Int :=
  (rounded (multiple width count greatest + 1 / 2)).floor

theorem share_of_finite {width : Nat} (fits : width < 2 ^ 53) (positive : 0 < greatest)
    (quotientFinite : |rounded (count / greatest)| < overflowBound)
    (multipleFinite : |multiple width count greatest| < overflowBound)
    (sumFinite : |rounded (multiple width count greatest + 1 / 2)| < overflowBound) :
    share count greatest width = .ok (computedCells width count greatest) := by
  obtain ⟨quotient, divided, quotientValue⟩ := ofQuotient_of_finite positive quotientFinite
  obtain ⟨factor, converted, factorValue⟩ := ofInt_of_fits (n := width) (by omega)
  rw [Int.cast_natCast] at factorValue
  have product := quotientValue.mul factorValue multipleFinite
  have sum := product.add_of_finite half_hasValue sumFinite
  unfold share
  rw [if_neg positive.ne', divided, ok_bind, converted, ok_bind, roundHalfUp, sum.floor]
  rfl

theorem computedCells_mono (width : Nat) {more : Int} (ordered : count ≤ more) (nonneg : 0 ≤ greatest) :
    computedCells width count greatest ≤ computedCells width more greatest := by
  have multiples := multiple_mono width ordered nonneg
  exact Rat.floor_monotone (rounded_mono (by linarith))

theorem computedCells_zero (width : Nat) (greatest : Int) : computedCells width 0 greatest = 0 := by
  rw [computedCells, multiple_zero]
  decide +kernel

theorem computedCells_none (width : Nat) (count : Int) : computedCells width count 0 = 0 := by
  rw [computedCells, multiple_none]
  decide +kernel

theorem computedCells_nonneg (width : Nat) (nonneg : 0 ≤ count) (greatestNonneg : 0 ≤ greatest) :
    0 ≤ computedCells width count greatest :=
  (computedCells_zero width greatest).symm.trans_le (computedCells_mono width nonneg greatestNonneg)

theorem le_computedCells_self {width : Nat} (fits : width < 2 ^ 53) (positive : 0 < greatest) :
    (width : Int) ≤ computedCells width greatest greatest := by
  rw [computedCells, multiple_self fits positive, Rat.le_floor_iff, Int.cast_natCast]
  exact le_rounded (isMagnitude_natCast fits) (by linarith)

/-- Without negative counts, a share can be computed however large the counts are. -/
theorem share_of_nonneg {width : Nat} (fits : width < 2 ^ 53) (nonneg : 0 ≤ count) (atMost : count ≤ greatest) :
    share count greatest width = .ok (computedCells width count greatest) := by
  rcases (nonneg.trans atMost).eq_or_lt with rfl | positive
  · rw [computedCells_none, share, if_pos rfl]
    rfl
  have denominator : (0 : Rat) < greatest := by exact_mod_cast positive
  have quotientNonneg : (0 : Rat) ≤ count / greatest := div_nonneg (by exact_mod_cast nonneg) denominator.le
  have quotientFinite : |rounded (count / greatest : Rat)| < overflowBound := by
    have small : (count / greatest : Rat) ≤ (1 : Nat) := by
      rw [Nat.cast_one, div_le_one denominator]
      exact_mod_cast atMost
    rw [abs_of_nonneg (rounded_nonneg quotientNonneg)]
    exact (rounded_le (isMagnitude_natCast (by norm_num)) small).trans_lt
      (natCast_lt_overflowBound (by norm_num))
  have multipleFinite := abs_multiple_lt fits nonneg atMost
  exact share_of_finite fits positive quotientFinite multipleFinite
    (abs_rounded_add_half_lt (isMagnitude_abs_rounded _) multipleFinite)

/-! ## Bars -/

/-- The filled cells of a bar. -/
def filledOf (width : Nat) (count greatest : Int) : Nat :=
  min (computedCells width count greatest).toNat width

theorem filledOf_mono (width : Nat) {more : Int} (ordered : count ≤ more) (nonneg : 0 ≤ greatest) :
    filledOf width count greatest ≤ filledOf width more greatest :=
  min_le_min_right width (Int.toNat_le_toNat (computedCells_mono width ordered nonneg))

theorem filledOf_self {width : Nat} (fits : width < 2 ^ 53) (positive : 0 < greatest) :
    filledOf width greatest greatest = width := by
  have all := le_computedCells_self fits positive
  unfold filledOf
  omega

theorem rankingBar_of_nonneg {width : Nat} (fits : width < 2 ^ 53) (nonneg : 0 ≤ count)
    (atMost : count ≤ greatest) :
    rankingBar count greatest width =
      .ok (List.replicate (filledOf width count greatest) '█' ++
        List.replicate (width - filledOf width count greatest) '░') := by
  have clamped : max 0 (min (computedCells width count greatest) width) =
      (filledOf width count greatest : Int) := by
    unfold filledOf
    omega
  have rest : ((width : Int) - filledOf width count greatest).toNat = width - filledOf width count greatest := by
    omega
  rw [← rest, rankingBar, share_of_nonneg fits nonneg atMost, ok_bind, clamped]
  rfl

/-- How far the bars of a width are filled for the counts up to a greatest one. -/
structure Fills (width : Nat) (greatest : Int) (filled : Int → Nat) : Prop where
  bar : ∀ count, 0 ≤ count → count ≤ greatest → ∃ cells, rankingBar count greatest width = .ok cells ∧
    cells = List.replicate (filled count) '█' ++ List.replicate (width - filled count) '░' ∧
    filled count ≤ width ∧ cells.length = width
  grows : ∀ count more, 0 ≤ count → count ≤ more → more ≤ greatest → filled count ≤ filled more
  full : 0 < greatest → filled greatest = width
  empty : filled 0 = 0

/-- A bar is drawn for each count up to the greatest one: filled cells and then empty ones, which together make
up the width.  The filled ones grow with the count, from none at all to the whole width. -/
theorem rankingBar_fills {width : Nat} (fits : width < 2 ^ 53) (greatest : Int) :
    ∃ filled, Fills width greatest filled := by
  refine ⟨fun count => filledOf width count greatest, ?_⟩
  exact {
    bar := by
      intro count nonneg atMost
      have inside : filledOf width count greatest ≤ width := min_le_right _ _
      refine ⟨_, rankingBar_of_nonneg fits nonneg atMost, rfl, inside, ?_⟩
      rw [List.length_append, List.length_replicate, List.length_replicate, Nat.add_sub_cancel' inside]
    grows := fun count more nonneg ordered atMost =>
      filledOf_mono width ordered (nonneg.trans (ordered.trans atMost))
    full := filledOf_self fits
    empty := by
      simp only [filledOf, computedCells_zero, Int.toNat_zero, Nat.zero_min] }

/-- The widest bar is full for the greatest count, though one more cell is computed for it. -/
theorem rankingBar_fills_widest :
    computedCells (2 ^ 53 - 1) (10 ^ 400) (10 ^ 400) = 2 ^ 53 ∧
      rankingBar (10 ^ 400) (10 ^ 400) (2 ^ 53 - 1 : Nat) = .ok (List.replicate (2 ^ 53 - 1) '█') := by
  refine ⟨by decide +kernel, ?_⟩
  obtain ⟨filled, fills⟩ := rankingBar_fills (by norm_num : 2 ^ 53 - 1 < 2 ^ 53) (10 ^ 400)
  obtain ⟨cells, drawn, rfl, -⟩ := fills.bar (10 ^ 400) (by positivity) (le_refl _)
  rwa [fills.full (by positivity), Nat.sub_self, List.replicate_zero, List.append_nil] at drawn

end ProjectGauge.Report
