import ProjectGauge.Proofs.Score.Ranking

/-!
# Scores as formulas

Signals may name a package any number of times, with counts of either sign.  Its score is what they add up
to, whatever their order, unless the points are so many that a binary64 number cannot count them.

* `exactScore` is the formula, and `absoluteScore` the same without the signs of the counts.
* `ofSource_exact` says that scores are computed without any error.
-/

namespace ProjectGauge.PackageScore

/-! ## The formula -/

def countsOf (package : String) (usages : List (String × Int)) : List Int :=
  (usages.filter fun usage => usage.1 = package).map Prod.snd

def importCountsOf (package : String) (entries : List ImportEntry) : List Int :=
  (entries.filter fun entry => entry.package = package).map ImportEntry.usageCount

def flagsOf (package : String) (entries : List ImportEntry) : Nat :=
  entries.countP fun entry => entry.package = package ∧ entry.inEntryPoint = true

/-- What the signals add up to for a package. -/
def exactScore (usages : List (String × Int)) (imports : ImportSignals) (package : String) : Int :=
  2 * (countsOf package usages).sum + 30 * imports.direct.count package +
    5 * (importCountsOf package imports.entries).sum + 25 * flagsOf package imports.entries

/-- The same if no points cancel each other. -/
def absoluteScore (usages : List (String × Int)) (imports : ImportSignals) (package : String) : Nat :=
  ((countsOf package usages).map fun count => (2 * count).natAbs).sum +
    30 * imports.direct.count package +
    ((importCountsOf package imports.entries).map fun count => (5 * count).natAbs).sum +
    25 * flagsOf package imports.entries

/-! ## The additions of each kind of signal -/

variable {package : String}

theorem points_usages (usages : List (String × Int)) :
    total package (usages.flatMap usageAdditions) = 2 * (countsOf package usages).sum ∧
      weight package (usages.flatMap usageAdditions) =
        ((countsOf package usages).map fun count => (2 * count).natAbs).sum := by
  induction usages with
  | nil => exact ⟨rfl, rfl⟩
  | cons usage rest inductionHypothesis =>
    obtain ⟨sum, absolute⟩ := inductionHypothesis
    rw [List.flatMap_cons, total_append, weight_append, sum, absolute, usageAdditions, total_single,
      weight_single, countsOf]
    by_cases here : usage.1 = package
    · simp [here, countsOf, Int.mul_add]
    · simp [here, countsOf]

theorem points_direct (direct : List String) :
    total package (direct.flatMap directAdditions) = 30 * direct.count package ∧
      weight package (direct.flatMap directAdditions) = 30 * direct.count package := by
  induction direct with
  | nil => exact ⟨rfl, rfl⟩
  | cons name rest inductionHypothesis =>
    obtain ⟨sum, absolute⟩ := inductionHypothesis
    rw [List.flatMap_cons, total_append, weight_append, sum, absolute, directAdditions, total_single,
      weight_single, List.count_cons]
    unfold directPoints
    by_cases here : name = package
    · simp only [here, if_true, beq_self_eq_true]
      omega
    · simp [here]

theorem points_entry (package : String) (entry : ImportEntry) :
    total package (importAdditions entry) =
        (if entry.package = package then 5 * entry.usageCount else 0) +
          25 * flagsOf package [entry] ∧
      weight package (importAdditions entry) =
        (if entry.package = package then (5 * entry.usageCount).natAbs else 0) +
          25 * flagsOf package [entry] := by
  rw [importAdditions, ← List.singleton_append, total_append, weight_append, total_single, weight_single]
  by_cases flagged : entry.inEntryPoint = true
  · rw [if_pos flagged, total_single, weight_single]
    by_cases here : entry.package = package <;> simp [here, flagged, flagsOf, entryPointPoints]
  · rw [if_neg flagged]
    simp [flagged, flagsOf, total, weight]

theorem points_entries (entries : List ImportEntry) :
    total package (entries.flatMap importAdditions) =
        5 * (importCountsOf package entries).sum + 25 * flagsOf package entries ∧
      weight package (entries.flatMap importAdditions) =
        ((importCountsOf package entries).map fun count => (5 * count).natAbs).sum +
          25 * flagsOf package entries := by
  induction entries with
  | nil => exact ⟨rfl, rfl⟩
  | cons entry rest inductionHypothesis =>
    obtain ⟨sum, absolute⟩ := inductionHypothesis
    obtain ⟨here, absoluteHere⟩ := points_entry package entry
    -- The flag of the first entry is counted apart from the others, as its points are added.
    have flags : flagsOf package (entry :: rest) = flagsOf package [entry] + flagsOf package rest := by
      rw [flagsOf, ← List.singleton_append, List.countP_append]
      rfl
    rw [List.flatMap_cons, total_append, weight_append, sum, absolute, here, absoluteHere, flags]
    by_cases same : entry.package = package
    · simp only [importCountsOf, List.filter_cons, same, decide_true, if_true, List.map_cons,
        List.sum_cons]
      omega
    · simp only [importCountsOf, List.filter_cons, same, decide_false, if_false, Bool.false_eq_true]
      omega

theorem total_additions (usages : List (String × Int)) (imports : ImportSignals) :
    total package (additions usages imports) = exactScore usages imports package := by
  rw [additions, total_append, total_append, (points_usages usages).1, (points_direct imports.direct).1,
    (points_entries imports.entries).1, exactScore, ← Int.add_assoc]

theorem weight_additions (usages : List (String × Int)) (imports : ImportSignals) :
    weight package (additions usages imports) = absoluteScore usages imports package := by
  rw [additions, weight_append, weight_append, (points_usages usages).2, (points_direct imports.direct).2,
    (points_entries imports.entries).2, absoluteScore, ← Nat.add_assoc]

/-! ## Scores without an error -/

/-- Signals in another order. -/
structure Permutes (usages others : List (String × Int)) (imports otherImports : ImportSignals) :
    Prop where
  usages : usages.Perm others
  direct : imports.direct.Perm otherImports.direct
  entries : imports.entries.Perm otherImports.entries

section Permutes

variable {usages others : List (String × Int)} {imports otherImports : ImportSignals}

theorem Permutes.exactScore_eq (permutes : Permutes usages others imports otherImports)
    (package : String) : exactScore others otherImports package = exactScore usages imports package := by
  have counts := (permutes.usages.filter fun usage => usage.1 = package).map Prod.snd
  have importCounts := (permutes.entries.filter fun entry => entry.package = package).map
    ImportEntry.usageCount
  unfold exactScore countsOf importCountsOf flagsOf
  rw [counts.sum_eq, importCounts.sum_eq, permutes.direct.count_eq, permutes.entries.countP_eq]

theorem Permutes.absoluteScore_eq (permutes : Permutes usages others imports otherImports)
    (package : String) :
    absoluteScore others otherImports package = absoluteScore usages imports package := by
  have counts := (permutes.usages.filter fun usage => usage.1 = package).map Prod.snd
  have importCounts := (permutes.entries.filter fun entry => entry.package = package).map
    ImportEntry.usageCount
  unfold absoluteScore countsOf importCountsOf flagsOf
  rw [(counts.map _).sum_eq, (importCounts.map _).sum_eq, permutes.direct.count_eq,
    permutes.entries.countP_eq]

end Permutes

theorem rank_exact {usages : List (String × Int)} {imports : ImportSignals} {scores : List PackageScore}
    (ranked : rank usages imports = .ok scores) {row : PackageScore} (member : row ∈ scores)
    (small : absoluteScore usages imports row.package < 2 ^ 52) :
    row.score = exactScore usages imports row.package := by
  have known := (row_of_rank ranked member).1
  rw [scoreOf_eq_total (by rwa [weight_additions]), total_additions] at known
  exact (Except.ok.inj known).symm

theorem Permutes.named_iff {usages others : List (String × Int)} {imports otherImports : ImportSignals}
    (permutes : Permutes usages others imports otherImports) (package : String) :
    package ∈ named others otherImports ↔ package ∈ named usages imports := by
  simp only [named, List.mem_append, (permutes.usages.map Prod.fst).mem_iff, permutes.direct.mem_iff,
    (permutes.entries.map ImportEntry.package).mem_iff]

/-- A ranking has one row for each package that the signals name, in whatever order they stand. -/
theorem RanksSignals.packages_perm {usages others : List (String × Int)}
    {imports otherImports : ImportSignals} {scores : List PackageScore}
    (ranks : RanksSignals others otherImports scores)
    (permutes : Permutes usages others imports otherImports) :
    (scores.map PackageScore.package).Perm (named usages imports).eraseDups := by
  rw [List.perm_ext_iff_of_nodup ranks.distinct (Json.nodup_eraseDups _)]
  intro package
  rw [ranks.packages, List.mem_eraseDups, ← permutes.named_iff]
  simp only [named, List.mem_append, or_assoc]

/-- In any order, signals whose points stay below `2 ^ 52` are added up without an error: there are scores,
one for each package that is named, and they are what the signals add up to.  The score of a package depends
on its own points only. -/
theorem ofSource_exact {room : Nat} {pairs others : List (String × Int)}
    {imports otherImports : ImportSignals} {usages : Json.Value} {source : ImportSource}
    (fit : PackagesFit room usages) (isUsages : IsUsages usages others) (holds : source.Holds otherImports)
    (permutes : Permutes pairs others imports otherImports) :
    ((∀ package, absoluteScore pairs imports package < 2 ^ 52) →
      ∃ scores, ofSource room usages source = .ok scores ∧
        (scores.map fun row => (row.package, row.score)).Perm
          ((named pairs imports).eraseDups.map fun package => (package, exactScore pairs imports package))) ∧
    ∀ scores, ofSource room usages source = .ok scores →
      (scores.map PackageScore.package).Perm (named pairs imports).eraseDups ∧
      ∀ row ∈ scores, absoluteScore pairs imports row.package < 2 ^ 52 →
        row.score = exactScore pairs imports row.package := by
  rw [ofSource_eq fit isUsages holds]
  have rowsOf (scores : List PackageScore) (ranked : rank others otherImports = .ok scores) :
      (scores.map PackageScore.package).Perm (named pairs imports).eraseDups ∧
      ∀ row ∈ scores, absoluteScore pairs imports row.package < 2 ^ 52 →
        row.score = exactScore pairs imports row.package := by
    refine ⟨(rank_ranks ranked).packages_perm permutes, fun row member small => ?_⟩
    rw [← permutes.exactScore_eq]
    exact rank_exact ranked member (by rwa [permutes.absoluteScore_eq])
  constructor
  · intro small
    have scored : ∀ package, ∃ n, scoreOf others otherImports package = .ok n := by
      intro package
      refine ⟨_, scoreOf_eq_total ?_⟩
      rw [weight_additions, permutes.absoluteScore_eq]
      exact small package
    obtain ⟨scores, ranked⟩ := rank_ok scored
    obtain ⟨packages, exactly⟩ := rowsOf scores ranked
    refine ⟨scores, mapError_eq_ok.mpr ranked, ?_⟩
    -- Each row is its package with the score of the formula, so the packages settle the rows.
    have rows : (scores.map fun row => (row.package, row.score)) =
        (scores.map PackageScore.package).map fun package => (package, exactScore pairs imports package) := by
      rw [List.map_map]
      exact List.map_congr_left fun row member => by rw [exactly row member (small row.package)]; rfl
    rw [rows]
    exact packages.map _
  · intro scores scored
    exact rowsOf scores (mapError_eq_ok.mp scored)

/-- The sample has scores, one for each package, and they are what its signals add up to in the opposite
order. -/
theorem ofSource_exact_sample :
    ∃ scores, ofSource 1 sampleUsages (.value sampleImports) = .ok scores ∧
      (scores.map fun row => (row.package, row.score)).Perm
        [("c", 60), ("d", 40), ("a", 36), ("b", 4), ("e", 4), ("1", 0)] ∧
      (scores.map PackageScore.package).Perm ["1", "e", "b", "a", "c", "d"] ∧
      ∀ row ∈ scores, row.score =
        exactScore samplePairs.reverse ⟨sampleSignals.direct.reverse, sampleSignals.entries.reverse⟩
          row.package := by
  have permutes : Permutes samplePairs.reverse samplePairs
      ⟨sampleSignals.direct.reverse, sampleSignals.entries.reverse⟩ sampleSignals :=
    ⟨List.reverse_perm _, List.reverse_perm _, List.reverse_perm _⟩
  have small : ∀ package, absoluteScore samplePairs.reverse
      ⟨sampleSignals.direct.reverse, sampleSignals.entries.reverse⟩ package < 2 ^ 52 := by
    intro package
    rw [← permutes.absoluteScore_eq, ← weight_additions]
    exact (weight_le_sum package _).trans_lt (by decide)
  obtain ⟨scored, exactly⟩ :=
    ofSource_exact isUsages_sample.1 isUsages_sample.2 (.value isImports_sample) permutes
  obtain ⟨scores, ranked, rows⟩ := scored small
  obtain ⟨packages, exactRows⟩ := exactly scores ranked
  refine ⟨scores, ranked, rows.trans ?_, packages, fun row member => exactRows row member (small row.package)⟩
  decide +kernel

end ProjectGauge.PackageScore
