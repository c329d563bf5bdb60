import ProjectGauge.Proofs.Score.Sums

/-!
# Scores as exact sums

Each signal adds whole points to the sum of one package.  As long as the points of a package stay below
`2 ^ 52` in absolute value, no addition is rounded, whatever the order of the signals and the signs of
their counts, so a score is the whole number that its signals add up to.

* `scoreOf_eq_total` says so of one package; `rank_eq` gives the ranking of signals all of which are small
  enough.
* `total_eq_points`: where no list of signals names a package twice, the details of a row account for
  its score.
-/

namespace ProjectGauge.PackageScore

open Binary64

/-! ## Exact scores -/

/-- The sum of a package is exact as long as its points stay below `2 ^ 52`. -/
theorem sumFor_isWhole {steps : List Step} {package : String}
    (fits : weight package (steps.map Step.addition) < 2 ^ 52) :
    ∃ sum, sumFor package steps = .ok sum ∧
      Measure.IsWhole (total package (steps.map Step.addition)) sum := by
  -- The weight bounds the totals before and behind a step, and its points.
  have summed := sumFor_holds
    (fun before sofar sum => sofar.natAbs ≤ before ∧ Measure.IsWhole sofar sum)
    ⟨Nat.le_refl 0, Measure.zero_isWhole⟩ ?_ fits
  · obtain ⟨sum, summed, -, whole⟩ := summed
    exact ⟨sum, summed, whole⟩
  rintro before sofar sum step ⟨bounded, whole⟩ fits
  have small : 2 * |(step.addition.2 : Rat)| < overflowBound := by
    rw [abs_intCast]
    exact_mod_cast natCast_lt_overflowBound (n := 2 * step.addition.2.natAbs) (by omega)
  obtain ⟨points, computed, represents⟩ := step.points_ok small
  obtain ⟨next, added, nextWhole⟩ :=
    whole.add (represents.isWhole (by omega)) (by omega) (by omega) (by omega)
  exact ⟨points, next, computed, added, by omega, nextWhole⟩

theorem scoreOf_eq_total {usages : List (String × Int)} {imports : ImportSignals} {package : String}
    (fits : weight package (additions usages imports) < 2 ^ 52) :
    scoreOf usages imports package = .ok (total package (additions usages imports)) := by
  have bounded := natAbs_total_le package (additions usages imports)
  rw [additions_eq] at fits bounded ⊢
  obtain ⟨sum, summed, whole⟩ := sumFor_isWhole fits
  rw [scoreOf, summed, ok_bind]
  exact whole.roundHalfUp (by omega)

/-- The ranking of signals whose points stay below `2 ^ 52`. -/
theorem rank_eq {usages : List (String × Int)} {imports : ImportSignals}
    (fits : ∀ package, weight package (additions usages imports) < 2 ^ 52) :
    rank usages imports =
      .ok ((rows (fun package => total package (additions usages imports)) usages imports).mergeSort
        fun a b => b.score ≤ a.score) := by
  obtain ⟨scores, ranked⟩ := rank_ok fun package => ⟨_, scoreOf_eq_total (fits package)⟩
  obtain ⟨score, isScore, sorted⟩ := exists_rows ranked
  have isTotal : rows score usages imports =
      rows (fun package => total package (additions usages imports)) usages imports := by
    refine List.map_congr_left fun package named => ?_
    have known := isScore package (List.mem_eraseDups.mp named)
    rw [scoreOf_eq_total (fits package)] at known
    rw [← Except.ok.inj known]
  rw [ranked, sorted, isTotal]

/-! ## What accounts for a score -/

/-- The points that the details of a row stand for. -/
def points (details : ScoreDetails) : Int :=
  2 * details.dependencyCount + (if details.isDirect then directPoints else 0) +
    5 * details.importCount + (if details.inEntryPoint then entryPointPoints else 0)

/-- Without negative points the weight is the total. -/
theorem weight_eq_total {additions : List Addition} (nonneg : ∀ addition ∈ additions, 0 ≤ addition.2)
    (package : String) : (weight package additions : Int) = total package additions := by
  induction additions with
  | nil => rfl
  | cons addition rest inductionHypothesis =>
    obtain ⟨name, points⟩ := addition
    have here : 0 ≤ points := nonneg _ List.mem_cons_self
    have others := inductionHypothesis fun other member => nonneg other (List.mem_cons_of_mem _ member)
    rw [← List.singleton_append, total_append, weight_append, total_single, weight_single]
    split <;> omega

/-- No signal takes points away whose count is not negative. -/
theorem additions_nonneg {usages : List (String × Int)} {imports : ImportSignals}
    (references : ∀ usage ∈ usages, 0 ≤ usage.2) (counts : ∀ entry ∈ imports.entries, 0 ≤ entry.usageCount) :
    ∀ addition ∈ additions usages imports, 0 ≤ addition.2 := by
  intro addition member
  simp only [additions, List.mem_append, List.mem_flatMap] at member
  rcases member with (⟨usage, isUsed, here⟩ | ⟨package, -, here⟩) | ⟨entry, isImported, here⟩
  · have counted := references usage isUsed
    rw [usageAdditions, List.mem_singleton] at here
    subst here
    exact mul_nonneg (by decide) counted
  · rw [directAdditions, List.mem_singleton] at here
    subst here
    exact (by decide : 0 ≤ directPoints)
  · have counted := counts entry isImported
    rw [importAdditions, List.mem_cons] at here
    rcases here with rfl | bonus
    · exact mul_nonneg (by decide) counted
    · split at bonus
      · rw [List.mem_singleton] at bonus
        subst bonus
        exact (by decide : 0 ≤ entryPointPoints)
      · cases bonus

/-- Where no package has two items, its total is what its one item adds. -/
theorem total_flatMap (name : α → String) (parts : α → List Addition)
    (own : ∀ item, ∀ addition ∈ parts item, addition.1 = name item) {items : List α}
    (distinct : (items.map name).Nodup) (package : String) :
    total package (items.flatMap parts) =
      ((items.find? fun item => name item = package).map
        fun item => ((parts item).map Prod.snd).sum).getD 0 := by
  have others (item : α) (other : name item ≠ package) : total package (parts item) = 0 := by
    rw [total, List.filter_eq_nil_iff.mpr]
    · rfl
    · intro addition member
      simpa [own item addition member] using other
  induction items with
  | nil => rfl
  | cons item rest inductionHypothesis =>
    rw [List.map_cons, List.nodup_cons] at distinct
    rw [List.flatMap_cons, total_append]
    by_cases here : name item = package
    · have alone : total package (rest.flatMap parts) = 0 := by
        rw [inductionHypothesis distinct.2, List.find?_eq_none.mpr]
        · rfl
        · intro other member
          have different : name other ≠ package := fun same =>
            distinct.1 (here.trans same.symm ▸ List.mem_map_of_mem member)
          simpa using different
      have all : (parts item).filter (fun addition => addition.1 = package) = parts item := by
        rw [List.filter_eq_self]
        intro addition member
        simp [own item addition member, here]
      rw [List.find?_cons_of_pos (by simpa using here), alone, total, all]
      simp
    · rw [List.find?_cons_of_neg (by simpa using here), others item here, Int.zero_add]
      exact inductionHypothesis distinct.2

/-- Where no list of signals names a package twice, its details account for all that is added. -/
theorem total_eq_points {usages : List (String × Int)} {imports : ImportSignals}
    (used : (usages.map Prod.fst).Nodup) (direct : imports.direct.Nodup)
    (imported : (imports.entries.map ImportEntry.package).Nodup) (package : String) :
    total package (additions usages imports) = points (detailsOf usages imports package) := by
  have ofUsages : total package (usages.flatMap usageAdditions) =
      2 * (detailsOf usages imports package).dependencyCount := by
    rw [total_flatMap Prod.fst usageAdditions (by simp [usageAdditions]) used, detailsOf,
      Json.lookup_eq_find?]
    cases usages.find? _ <;> simp [usageAdditions]
  have ofDirect : total package (imports.direct.flatMap directAdditions) =
      if (detailsOf usages imports package).isDirect then directPoints else 0 := by
    have found : (imports.direct.find? fun name => id name = package).isSome =
        imports.direct.contains package := by
      rw [Bool.eq_iff_iff, List.find?_isSome]
      simp
    rw [total_flatMap id directAdditions (by simp [directAdditions]) (by rwa [List.map_id]), detailsOf,
      ← found]
    cases imports.direct.find? _ <;> simp [directAdditions]
  have ofEntries : total package (imports.entries.flatMap importAdditions) =
      5 * (detailsOf usages imports package).importCount +
        if (detailsOf usages imports package).inEntryPoint then entryPointPoints else 0 := by
    have own : ∀ entry : ImportEntry, ∀ addition ∈ importAdditions entry,
        addition.1 = entry.package := by
      intro entry
      unfold importAdditions
      split <;> simp
    rw [total_flatMap ImportEntry.package importAdditions own imported, detailsOf]
    cases imports.entries.find? _ with
    | none => rfl
    | some entry => cases flagged : entry.inEntryPoint <;> simp [importAdditions, flagged]
  rw [additions, total_append, total_append, ofUsages, ofDirect, ofEntries]
  simp only [points, Int.add_assoc]

end ProjectGauge.PackageScore
