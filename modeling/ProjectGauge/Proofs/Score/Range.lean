import ProjectGauge.Proofs.Score.Total

/-!
# Scores that do not overflow

The points of a package may be rounded where they are many, but they do not make its sum overflow unless
they come near the greatest number themselves: rounding never takes a sum further than twice its points.

* `scoreOf_ok` says so of one package.
* `rank_ok_of_bounded`: packages with moderate counts have scores.
-/

namespace ProjectGauge.PackageScore

open Binary64

/-- Points that do not come near the overflow bound. -/
def pointsLimit : Nat := 2 ^ 1020

theorem lt_overflowBound_of_lt_pointsLimit {points : Nat} (small : points < pointsLimit) :
    4 * (points : Rat) + 1 < overflowBound := by
  have most : ((points + 1 : Nat) : Rat) ≤ 2 ^ 1020 := by
    exact_mod_cast (show points + 1 ≤ 2 ^ 1020 from small)
  have limit : (2 : Rat) ^ 1020 * 2 ^ 4 = overflowBound := by
    rw [← pow_add]
    exact (twoPow_natCast 1024).symm
  have one : (0 : Rat) < 2 ^ 1020 := by positivity
  rw [← limit]
  push_cast at most
  -- The power is too large to be computed with, so it gets a name.
  generalize (2 : Rat) ^ 1020 = bound at most one ⊢
  linarith

theorem sumFor_isWithin {steps : List Step} {package : String}
    (fits : weight package (steps.map Step.addition) < pointsLimit) :
    ∃ sum, sumFor package steps = .ok sum ∧
      Measure.IsWithin (weight package (steps.map Step.addition)) sum := by
  refine sumFor_holds (fun before _ sum => Measure.IsWithin before sum)
    (by simpa using Measure.zero_isWithin) ?_ fits
  intro before sofar sum step within fits
  have small := lt_overflowBound_of_lt_pointsLimit fits
  have nonneg := within.nonneg
  have pointsNonneg := abs_nonneg (step.addition.2 : Rat)
  rw [Nat.cast_add, ← abs_intCast] at small ⊢
  obtain ⟨points, computed, represents⟩ := step.points_ok (by linarith)
  obtain ⟨next, added, nextWithin⟩ := within.add represents (by linarith)
  exact ⟨points, next, computed, added, nextWithin⟩

theorem scoreOf_ok {usages : List (String × Int)} {imports : ImportSignals} {package : String}
    (fits : weight package (additions usages imports) < pointsLimit) :
    ∃ n, scoreOf usages imports package = .ok n := by
  rw [additions_eq] at fits
  obtain ⟨sum, summed, within⟩ := sumFor_isWithin fits
  obtain ⟨n, isScore⟩ := within.roundHalfUp (lt_overflowBound_of_lt_pointsLimit fits)
  exact ⟨n, by rw [scoreOf, summed, ok_bind, isScore]⟩

/-! ## Moderate counts -/

/-- Packages that are named once by each kind of signal, with counts up to a bound, have scores. -/
theorem rank_ok_of_bounded {bound : Nat} {usages : List (String × Int)} {imports : ImportSignals}
    (small : 7 * bound + 55 < pointsLimit) (used : (usages.map Prod.fst).Nodup)
    (direct : imports.direct.Nodup) (imported : (imports.entries.map ImportEntry.package).Nodup)
    (references : ∀ usage ∈ usages, 0 ≤ usage.2 ∧ usage.2 ≤ bound)
    (counts : ∀ entry ∈ imports.entries, 0 ≤ entry.usageCount ∧ entry.usageCount ≤ bound) :
    ∃ scores, rank usages imports = .ok scores := by
  refine rank_ok fun package => scoreOf_ok ?_
  -- The details of a package account for its points, and each of them is small.
  have weighed := weight_eq_total (additions_nonneg (fun usage member => (references usage member).1)
    fun entry member => (counts entry member).1) package
  rw [total_eq_points used direct imported] at weighed
  have dependencyCount : (detailsOf usages imports package).dependencyCount ≤ bound := by
    rw [detailsOf]
    cases found : Json.lookup package usages with
    | none => simp
    | some count => exact (references _ (Json.mem_of_lookup found)).2
  have importCount : (detailsOf usages imports package).importCount ≤ bound := by
    rw [detailsOf]
    cases found : imports.entries.find? fun entry => entry.package = package with
    | none => simp
    | some entry => exact (counts entry (List.mem_of_find?_eq_some found)).2
  unfold points directPoints entryPointPoints at weighed
  split at weighed <;> split at weighed <;> omega

end ProjectGauge.PackageScore
