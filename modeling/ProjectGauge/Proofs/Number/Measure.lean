import ProjectGauge.Number.Measure
import ProjectGauge.Proofs.Number.Nearest
import ProjectGauge.Proofs.Result

/-!
# Sums of measures

A sum of measures is a whole number until a binary64 number comes to it.  Where its terms stand for whole
numbers, it stands for their sum as long as that stays below `2 ^ 53` (`IsWhole`), and beyond that it stays
finite as long as the terms do not come near the overflow bound (`IsWithin`).  `HasValue` says which rational
a measure stands for.
-/

namespace ProjectGauge.Measure

/-- A measure of points: their number, or what their number is rounded to. -/
def Represents (n : Int) : Measure → Prop
  | .whole k => k = n
  | .real x => x.HasValue (Binary64.rounded n)

theorem Represents.toBinary64 {n : Int} {points : Measure} (represents : Represents n points)
    (small : 2 * |(n : Rat)| < Binary64.overflowBound) :
    ∃ x, points.toBinary64 = .ok x ∧ x.HasValue (Binary64.rounded n) := by
  cases points with
  | whole k =>
    obtain rfl : k = n := represents
    exact Binary64.ofInt_hasValue small
  | real x => exact ⟨x, rfl, represents⟩

/-- A sum is whole if both terms are, and otherwise that of their counterparts. -/
theorem add_of_toBinary64 {a b : Measure} {x y : Binary64} (first : a.toBinary64 = .ok x)
    (second : b.toBinary64 = .ok y) :
    (∃ k n, a = .whole k ∧ b = .whole n ∧ a.add b = .ok (.whole (k + n))) ∨
      a.add b = .ok (.real (x.add y)) := by
  cases a with
  | whole k =>
    cases b with
    | whole n => exact .inl ⟨k, n, rfl, rfl, rfl⟩
    | real _ =>
      right
      simp only [add, first, second, ok_bind]
      rfl
  | real _ =>
    right
    simp only [add, first, second, ok_bind]
    rfl

/-! ## Values -/

/-- A measure with its value. -/
def HasValue (value : Rat) : Measure → Prop
  | .whole n => (n : Rat) = value
  | .real x => x.HasValue value

theorem HasValue.floor {value : Rat} {m : Measure} (hasValue : HasValue value m) :
    m.floor = .ok value.floor := by
  cases m with
  | whole n =>
    obtain rfl : (n : Rat) = value := hasValue
    rw [Measure.floor, Rat.floor_intCast]
  | real x => exact Binary64.HasValue.floor hasValue

/-- A quotient by a number from two on does not overflow. -/
theorem HasValue.dividedBy {value : Rat} {m : Measure} (hasValue : HasValue value m) {n : Nat}
    (many : 2 ≤ n) (finite : |value| < Binary64.overflowBound) :
    ∃ x, m.dividedBy n = .ok x ∧ x.HasValue (Binary64.rounded (value / n)) := by
  cases m with
  | whole k =>
    obtain rfl : (k : Rat) = value := hasValue
    have divisor : (2 : Rat) ≤ n := by exact_mod_cast many
    have half : 2 * |(k : Rat) / (n : Int)| < Binary64.overflowBound := by
      rw [Int.cast_natCast, abs_div, abs_of_pos (by linarith : (0 : Rat) < n)]
      have quotient : |(k : Rat)| / n ≤ |(k : Rat)| / 2 :=
        div_le_div_of_nonneg_left (abs_nonneg _) (by norm_num) divisor
      linarith
    obtain ⟨x, computed, value⟩ := Binary64.ofQuotient_hasValue (Int.natCast_pos.mpr (by omega)) half
    exact ⟨x, computed, by rwa [Int.cast_natCast] at value⟩
  | real x => exact ⟨_, rfl, Binary64.HasValue.divNat hasValue many⟩

theorem HasValue.toBinary64 {value : Rat} {m : Measure} (hasValue : HasValue value m)
    (small : 2 * |value| < Binary64.overflowBound) :
    ∃ x number, m.toBinary64 = .ok x ∧ x.HasValue number ∧ |number| ≤ 2 * |value| := by
  cases m with
  | whole k =>
    obtain rfl : (k : Rat) = value := hasValue
    obtain ⟨x, converted, hasValue⟩ := Binary64.ofInt_hasValue small
    exact ⟨x, _, converted, hasValue, Binary64.abs_rounded_le _⟩
  | real x => exact ⟨x, value, rfl, hasValue, by linarith [abs_nonneg value]⟩

/-- The difference of measures that do not come near the overflow bound has a value. -/
theorem HasValue.sub {first second : Rat} {a b : Measure} (left : HasValue first a) (right : HasValue second b)
    (small : 4 * (|first| + 2 * |second|) < Binary64.overflowBound) :
    ∃ difference value, a.sub b = .ok difference ∧ HasValue value difference ∧
      |value| < Binary64.overflowBound := by
  have firstNonneg := abs_nonneg first
  have secondNonneg := abs_nonneg second
  obtain ⟨x, number, converted, xValue, xBounded⟩ := left.toBinary64 (by linarith)
  obtain ⟨y, taken, otherConverted, yValue, yBounded⟩ := right.toBinary64 (by linarith)
  have near : |number| + 2 * |-taken| < Binary64.overflowBound := by
    rw [abs_neg]
    linarith
  have subtracted := xValue.add yValue.neg near
  have computed (mixed : a.sub b = (do return .real ((← a.toBinary64).sub (← b.toBinary64)))) :
      a.sub b = .ok (.real (x.add y.neg)) := by
    rw [mixed, converted, otherConverted]
    rfl
  cases a with
  | whole k =>
    cases b with
    | whole n =>
      refine ⟨.whole (k - n), ((k - n : Int) : Rat), rfl, rfl, ?_⟩
      obtain rfl : (k : Rat) = first := left
      obtain rfl : (n : Rat) = second := right
      rw [Int.cast_sub]
      linarith [abs_sub (k : Rat) n]
    | real _ => exact ⟨_, _, computed rfl, subtracted, subtracted.abs_lt⟩
  | real _ => exact ⟨_, _, computed rfl, subtracted, subtracted.abs_lt⟩

/-- A measure with a whole value. -/
def IsWhole (n : Int) : Measure → Prop
  | .whole k => k = n
  | .real x => Binary64.IsWhole n x

theorem zero_isWhole : IsWhole 0 zero := rfl

theorem Represents.isWhole {n : Int} {points : Measure} (represents : Represents n points)
    (fits : n.natAbs < 2 ^ 53) : IsWhole n points := by
  cases points with
  | whole k => exact represents
  | real x =>
    have value := Binary64.HasValue.toRat? represents
    rwa [Binary64.rounded_intCast fits] at value

theorem IsWhole.toBinary64 {n : Int} {m : Measure} (whole : IsWhole n m) (fits : n.natAbs < 2 ^ 53) :
    ∃ x, m.toBinary64 = .ok x ∧ Binary64.IsWhole n x := by
  cases m with
  | whole k =>
    obtain rfl : k = n := whole
    exact Binary64.ofInt_isWhole fits
  | real x => exact ⟨x, rfl, whole⟩

theorem IsWhole.add {k n : Int} {a b : Measure} (left : IsWhole k a) (right : IsWhole n b)
    (leftFits : k.natAbs < 2 ^ 53) (rightFits : n.natAbs < 2 ^ 53) (fits : (k + n).natAbs < 2 ^ 53) :
    ∃ sum, a.add b = .ok sum ∧ IsWhole (k + n) sum := by
  obtain ⟨x, first, xWhole⟩ := left.toBinary64 leftFits
  obtain ⟨y, second, yWhole⟩ := right.toBinary64 rightFits
  rcases add_of_toBinary64 first second with ⟨i, j, rfl, rfl, added⟩ | added
  · exact ⟨_, added, congrArg₂ (· + ·) left right⟩
  · exact ⟨_, added, xWhole.add yWhole fits⟩

theorem IsWhole.roundHalfUp {n : Int} {m : Measure} (whole : IsWhole n m) (fits : n.natAbs < 2 ^ 52) :
    m.roundHalfUp = .ok n := by
  obtain ⟨x, converted, xWhole⟩ := whole.toBinary64 (by omega)
  rw [Measure.roundHalfUp, converted, ok_bind]
  exact xWhole.roundHalfUp fits

/-! ## Sums that do not overflow -/

/-- What a sum may be whose terms stand for numbers that come to a bound without their signs.  Turning a whole
number into a binary64 one at most doubles it, and adding such a term moves a sum by at most twice the
term. -/
def IsWithin (bound : Rat) : Measure → Prop
  | .whole k => |(k : Rat)| ≤ bound
  | .real x => ∃ value, x.HasValue value ∧ |value| ≤ 4 * bound

theorem zero_isWithin : IsWithin 0 zero := by
  simp [IsWithin, zero]

theorem IsWithin.nonneg {bound : Rat} {m : Measure} (within : IsWithin bound m) : 0 ≤ bound := by
  cases m with
  | whole k => exact (abs_nonneg _).trans within
  | real x =>
    obtain ⟨value, -, bounded⟩ := within
    linarith [abs_nonneg value]

theorem IsWithin.toBinary64 {bound : Rat} {m : Measure} (within : IsWithin bound m)
    (small : 4 * bound < Binary64.overflowBound) :
    ∃ x value, m.toBinary64 = .ok x ∧ x.HasValue value ∧ |value| ≤ 4 * bound := by
  have nonneg := within.nonneg
  cases m with
  | whole k =>
    have bounded : |(k : Rat)| ≤ bound := within
    obtain ⟨x, converted, hasValue⟩ := Binary64.ofInt_hasValue (n := k)
      (show 2 * |(k : Rat)| < Binary64.overflowBound by linarith)
    exact ⟨x, _, converted, hasValue, (Binary64.abs_rounded_le _).trans (by linarith)⟩
  | real x =>
    obtain ⟨value, hasValue, bounded⟩ := within
    exact ⟨x, value, rfl, hasValue, bounded⟩

theorem IsWithin.add {bound : Rat} {n : Int} {sum points : Measure} (within : IsWithin bound sum)
    (represents : Represents n points) (small : 4 * (bound + |(n : Rat)|) < Binary64.overflowBound) :
    ∃ next, sum.add points = .ok next ∧ IsWithin (bound + |(n : Rat)|) next := by
  have nonneg := abs_nonneg (n : Rat)
  have boundNonneg := within.nonneg
  obtain ⟨x, number, first, xValue, xBounded⟩ := within.toBinary64 (by linarith)
  obtain ⟨y, second, yValue⟩ := represents.toBinary64 (by linarith)
  have doubled := Binary64.abs_rounded_le n
  rcases add_of_toBinary64 first second with ⟨i, j, rfl, rfl, added⟩ | added
  · obtain rfl : j = n := represents
    refine ⟨_, added, ?_⟩
    have bounded : |(i : Rat)| ≤ bound := within
    have triangle := abs_add_le (i : Rat) j
    simp only [IsWithin, Int.cast_add]
    linarith
  · exact ⟨_, added, _, xValue.add yValue (by linarith),
      (Binary64.abs_rounded_add_le xValue.isMagnitude _).trans (by linarith)⟩

theorem IsWithin.roundHalfUp {bound : Rat} {m : Measure} (within : IsWithin bound m)
    (small : 4 * bound + 1 < Binary64.overflowBound) : ∃ n, m.roundHalfUp = .ok n := by
  obtain ⟨x, value, converted, hasValue, bounded⟩ := within.toBinary64 (by linarith)
  rw [Measure.roundHalfUp, converted, ok_bind]
  exact hasValue.roundHalfUp (by linarith)

end ProjectGauge.Measure
