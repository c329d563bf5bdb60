import ProjectGauge.Proofs.Score.Signals
import ProjectGauge.Proofs.Score.Total
import ProjectGauge.Proofs.Sorting

/-!
# The order and the rows of a ranking

Packages may be named any number of times, by any of the three kinds of signals.  A ranking has one row for
each, behind all rows with higher scores and behind those with the same score whose packages are named
earlier; of several counts of a package, the first one is shown.

* `RanksSignals` says so, and `ofSource_ranks` that it holds of every ranking that comes of JSON values.
* `eraseDups_additions`: the points are added to the packages in the order in which these are named.
-/

namespace ProjectGauge.PackageScore

/-! ## What a ranking shows -/

/-- The packages in the order in which the signals name them. -/
def named (usages : List (String × Int)) (imports : ImportSignals) : List String :=
  usages.map Prod.fst ++ imports.direct ++ imports.entries.map ImportEntry.package

/-- What the first item of a package has, or the default if there is no such item. -/
inductive FirstCounts {α β : Type} (name : α → String) (value : α → β) (default : β) (package : String) :
    List α → β → Prop where
  | first {before behind : List α} {item : α} (fresh : ∀ other ∈ before, name other ≠ package)
      (same : name item = package) :
      FirstCounts name value default package (before ++ item :: behind) (value item)
  | nothing {items : List α} (unnamed : ∀ item ∈ items, name item ≠ package) :
      FirstCounts name value default package items default

/-- A ranking of the packages that signals name. -/
structure RanksSignals (usages : List (String × Int)) (imports : ImportSignals)
    (scores : List PackageScore) : Prop where
  packages : ∀ package, package ∈ scores.map PackageScore.package ↔
    package ∈ usages.map Prod.fst ∨ package ∈ imports.direct ∨
      package ∈ imports.entries.map ImportEntry.package
  distinct : (scores.map PackageScore.package).Nodup
  ordered : scores.Pairwise fun before behind => behind.score ≤ before.score
  stable : scores.Pairwise fun before behind => behind.score = before.score →
    (named usages imports).idxOf before.package < (named usages imports).idxOf behind.package
  direct : ∀ row ∈ scores, row.details.isDirect = true ↔ row.package ∈ imports.direct
  references : ∀ row ∈ scores,
    FirstCounts Prod.fst Prod.snd 0 row.package usages row.details.dependencyCount
  imported : ∀ row ∈ scores, FirstCounts ImportEntry.package ImportEntry.usageCount 0 row.package
    imports.entries row.details.importCount
  entryPoint : ∀ row ∈ scores, FirstCounts ImportEntry.package ImportEntry.inEntryPoint false row.package
    imports.entries row.details.inEntryPoint

/-! ## The rows before they are sorted -/

theorem firstCounts_find? {α β : Type} (name : α → String) (value : α → β) (default : β) (package : String)
    (items : List α) : FirstCounts name value default package items
      (((items.find? fun item => name item = package).map value).getD default) := by
  cases found : items.find? fun item => name item = package with
  | none =>
    refine .nothing fun item member => ?_
    simpa using List.find?_eq_none.mp found item member
  | some item =>
    obtain ⟨same, before, behind, rfl, fresh⟩ := List.find?_eq_some_iff_append.mp found
    refine .first (fun other member => ?_) (by simpa using same)
    simpa using fresh other member

theorem eraseDups_importAdditions {before names : List String} (entries : List ImportEntry)
    (same : before.eraseDups = names.eraseDups) :
    (before ++ (entries.flatMap importAdditions).map Prod.fst).eraseDups =
      (names ++ entries.map ImportEntry.package).eraseDups := by
  induction entries generalizing before names with
  | nil => simpa using same
  | cons entry rest inductionHypothesis =>
    have here : (before ++ (importAdditions entry).map Prod.fst).eraseDups =
        (names ++ [entry.package]).eraseDups := by
      rw [← Json.eraseDups_concat_congr same entry.package, importAdditions]
      split
      · -- The bonus names the package once more.
        simpa using Json.eraseDups_concat_self before entry.package
      · rfl
    simpa using inductionHypothesis here

/-- Points are added to the packages in the order in which the signals name them. -/
theorem eraseDups_additions (usages : List (String × Int)) (imports : ImportSignals) :
    ((additions usages imports).map Prod.fst).eraseDups = (named usages imports).eraseDups := by
  have front : (usages.flatMap usageAdditions ++ imports.direct.flatMap directAdditions).map Prod.fst =
      usages.map Prod.fst ++ imports.direct := by
    simp [usageAdditions, directAdditions, List.map_flatMap, ← List.map_eq_flatMap]
  rw [additions, List.map_append, front]
  exact eraseDups_importAdditions imports.entries rfl

theorem pairwise_rows (score : String → Int) (usages : List (String × Int)) (imports : ImportSignals) :
    (rows score usages imports).Pairwise fun before behind =>
      (named usages imports).idxOf before.package < (named usages imports).idxOf behind.package := by
  have order := Json.pairwise_eraseDups (named usages imports)
  rwa [← eraseDups_additions, ← packages_rows score, List.pairwise_map] at order

/-! ## The ranking -/

theorem rank_ranks {usages : List (String × Int)} {imports : ImportSignals} {scores : List PackageScore}
    (ranked : rank usages imports = .ok scores) : RanksSignals usages imports scores := by
  have detailsOfRow : ∀ row ∈ scores, row.details = detailsOf usages imports row.package :=
    fun row member => (row_of_rank ranked member).2
  obtain ⟨score, -, rfl⟩ := exists_rows ranked
  have sorted := List.mergeSort_perm (rows score usages imports) fun a b => b.score ≤ a.score
  exact {
    packages := by
      intro package
      rw [(sorted.map PackageScore.package).mem_iff, mem_packages_rows]
    distinct := by
      rw [(sorted.map PackageScore.package).nodup_iff, packages_rows]
      exact Json.nodup_eraseDups _
    ordered := pairwise_mergeSort_key PackageScore.score _
    stable := by
      rw [List.pairwise_iff_forall_sublist]
      intro before behind inside same
      exact List.pairwise_iff_forall_sublist.mp (pairwise_rows score usages imports)
        (pair_sublist_of_mergeSort PackageScore.score inside same)
    direct := by
      intro row member
      rw [detailsOfRow row member, detailsOf, List.contains_iff_mem]
    references := by
      intro row member
      rw [detailsOfRow row member, detailsOf, Json.lookup_eq_find?]
      exact firstCounts_find? _ _ _ _ _
    imported := by
      intro row member
      rw [detailsOfRow row member]
      exact firstCounts_find? _ _ _ _ _
    entryPoint := by
      intro row member
      rw [detailsOfRow row member]
      exact firstCounts_find? _ _ _ _ _ }

/-- Whatever values scores come of, the scores rank the signals that the values hold. -/
theorem ofSource_ranks {room : Nat} {usages : Json.Value} {source : ImportSource}
    {scores : List PackageScore} (accepted : ofSource room usages source = .ok scores) :
    ∃ pairs imports, IsUsages usages pairs ∧ source.Holds imports ∧ RanksSignals pairs imports scores := by
  obtain ⟨pairs, imports, isUsages, holds, ranked⟩ := exists_of_ofSource accepted
  exact ⟨pairs, imports, isUsages, holds, rank_ranks ranked⟩

/-! ## A sample -/

def sampleUsages : Json.Value :=
  .array [.array [.text "b", .int 3], .array [.text "a", .int 3], .array [.text "b", .int (-1)],
    .array [.text "e", .int 2], .array [.int 1, .int 0]]

def sampleImports : Json.Value :=
  .object [("direct_deps", .array [.text "c", .text "c", .text "a"]),
    ("import_analysis", .array [
      .object [("package", .text "d"), ("usage_count", .text "2"), ("is_in_entry_point", .text "yes")],
      .object [("package", .text "c")],
      .object [("package", .text "d"), ("usage_count", .bool true)]])]

def samplePairs : List (String × Int) :=
  [("b", 3), ("a", 3), ("b", -1), ("e", 2), ("1", 0)]

def sampleSignals : ImportSignals where
  direct := ["c", "c", "a"]
  entries := [⟨"d", 2, true⟩, ⟨"c", 0, false⟩, ⟨"d", 1, false⟩]

/-- The package `d` is imported twice, and of `b` and `e`, which are worth the same, `b` is named first. -/
def sampleScores : List PackageScore :=
  [⟨"c", 60, ⟨true, 0, false, 0⟩⟩, ⟨"d", 40, ⟨false, 2, true, 0⟩⟩, ⟨"a", 36, ⟨true, 0, false, 3⟩⟩,
    ⟨"b", 4, ⟨false, 0, false, 3⟩⟩, ⟨"e", 4, ⟨false, 0, false, 2⟩⟩, ⟨"1", 0, ⟨false, 0, false, 0⟩⟩]

theorem isUsages_sample : PackagesFit 1 sampleUsages ∧ IsUsages sampleUsages samplePairs :=
  readUsages_eq_ok.mp rfl

theorem isImports_sample : IsImports sampleImports sampleSignals :=
  readImports_eq_ok.mp rfl

theorem rank_sample : rank samplePairs sampleSignals = .ok sampleScores := by
  have small : ∀ package, weight package (additions samplePairs sampleSignals) < 2 ^ 52 := fun package =>
    (weight_le_sum package _).trans_lt (by decide)
  have unsorted : rows (fun package => total package (additions samplePairs sampleSignals)) samplePairs
      sampleSignals =
        [⟨"b", 4, ⟨false, 0, false, 3⟩⟩, ⟨"a", 36, ⟨true, 0, false, 3⟩⟩,
          ⟨"e", 4, ⟨false, 0, false, 2⟩⟩, ⟨"1", 0, ⟨false, 0, false, 0⟩⟩,
          ⟨"c", 60, ⟨true, 0, false, 0⟩⟩, ⟨"d", 40, ⟨false, 2, true, 0⟩⟩] := by
    decide +kernel
  rw [rank_eq small, unsorted]
  simp [List.mergeSort, List.MergeSort.Internal.splitInTwo, sampleScores]

theorem ofSource_sample : ofSource 1 sampleUsages (.value sampleImports) = .ok sampleScores := by
  rw [ofSource_eq isUsages_sample.1 isUsages_sample.2 (.value isImports_sample), rank_sample]
  rfl

theorem ofSource_ranks_sample :
    ofSource 1 sampleUsages (.value sampleImports) = .ok sampleScores ∧
      ∃ pairs imports, IsUsages sampleUsages pairs ∧ (ImportSource.value sampleImports).Holds imports ∧
        RanksSignals pairs imports sampleScores :=
  ⟨ofSource_sample, ofSource_ranks ofSource_sample⟩

end ProjectGauge.PackageScore
