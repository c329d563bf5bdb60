import ProjectGauge.Proofs.Project.Survey
import ProjectGauge.Proofs.Score.Ranking

/-!
# The ranking of the packages of a project

What a project declares, what its sources refer to and what they import come from three stages.  Each
names a package once, and nothing is referred to that is not declared.  So a package has one row, the
details of the row account for its score, and there are rows as soon as anything is declared or imported.

* `Project.survey_ranks_packages` says all that of the survey of a directory.
* `Project.pointsFor_le` bounds the points of every package by the volume of the file tree.
-/

namespace ProjectGauge

open Files

/-! ## What a package is worth -/

/-- The number of references to a package among dependencies. -/
def referencesTo (package : String) (dependencies : List Dependency) : Int :=
  ((dependencies.find? fun dependency => dependency.name = package).map Dependency.count).getD 0

/-- The exact sum of the points that a package gets. -/
def pointsFor (dependencies : List Dependency) (declared : Manifest.Declared) (imports : ImportMap)
    (package : String) : Int :=
  2 * referencesTo package dependencies + (if package ∈ declared.map Prod.fst then 30 else 0) +
    5 * (imports.usage package).count + (if (imports.usage package).inEntryPoint then 25 else 0)

/-- A ranking of the packages of a project. -/
structure RanksPackages (dependencies : List Dependency) (declared : Manifest.Declared)
    (imports : ImportMap) (rows : List PackageScore) : Prop where
  /-- The packages are those that are declared and those that are imported. -/
  packages : ∀ package, package ∈ rows.map PackageScore.package ↔
    package ∈ declared.map Prod.fst ∨ package ∈ imports.map Prod.fst
  distinct : (rows.map PackageScore.package).Nodup
  details : ∀ row ∈ rows, row.details =
    { isDirect := row.package ∈ declared.map Prod.fst
      importCount := (imports.usage row.package).count
      inEntryPoint := (imports.usage row.package).inEntryPoint
      dependencyCount := referencesTo row.package dependencies }
  direct : ∀ row ∈ rows, 0 < row.details.dependencyCount → row.details.isDirect = true
  explained : ∀ row ∈ rows, row.score =
    2 * row.details.dependencyCount + (if row.details.isDirect then 30 else 0) +
      5 * row.details.importCount + (if row.details.inEntryPoint then 25 else 0)
  ordered : rows.Pairwise fun before behind => behind.score ≤ before.score

/-- Stages that fit together: each names a package once, and no count is negative. -/
structure Consistent (dependencies : List Dependency) (declared : Manifest.Declared)
    (imports : ImportMap) : Prop where
  used : (dependencies.map Dependency.name).Nodup
  counted : ∀ dependency ∈ dependencies, 0 < dependency.count
  declaredOnce : (declared.map Prod.fst).Nodup
  usedDeclared : ∀ dependency ∈ dependencies, dependency.name ∈ declared.map Prod.fst
  imported : imports.Sound

/-! ## Signals of a project -/

theorem usage_eq_find? (imports : ImportMap) (package : String) :
    imports.usage package =
      ((imports.find? fun entry => entry.1 = package).map Prod.snd).getD .none := by
  rw [ImportMap.usage, Json.lookup_eq_find?]

theorem detailsOf_stages (dependencies : List Dependency) (declared : Manifest.Declared)
    (imports : ImportMap) (package : String) :
    PackageScore.detailsOf (dependencies.map fun dependency => (dependency.name, dependency.count))
      ⟨declared.map Prod.fst, imports.entries⟩ package =
    { isDirect := package ∈ declared.map Prod.fst
      importCount := (imports.usage package).count
      inEntryPoint := (imports.usage package).inEntryPoint
      dependencyCount := referencesTo package dependencies } := by
  rw [usage_eq_find?]
  simp only [PackageScore.detailsOf, ImportMap.entries, Json.lookup_eq_find?, List.find?_map,
    referencesTo, Option.map_map, Function.comp_def, List.contains_eq_mem]
  cases imports.find? _ <;> rfl

/-! ## The ranking of stages that fit together -/

namespace Consistent

variable {dependencies : List Dependency} {declared : Manifest.Declared} {imports : ImportMap}

theorem nodup_imported (consistent : Consistent dependencies declared imports) :
    (imports.entries.map ImportEntry.package).Nodup := by
  rw [ImportMap.entries, List.map_map]
  exact consistent.imported.distinct

theorem nodup_used (consistent : Consistent dependencies declared imports) :
    ((dependencies.map fun dependency => (dependency.name, dependency.count)).map Prod.fst).Nodup := by
  rw [List.map_map]
  exact consistent.used

theorem referencesTo_pos {package : String} (positive : 0 < referencesTo package dependencies) :
    ∃ dependency ∈ dependencies, dependency.name = package := by
  unfold referencesTo at positive
  cases found : dependencies.find? fun dependency => dependency.name = package with
  | none =>
    rw [found] at positive
    cases positive
  | some dependency =>
    exact ⟨dependency, List.mem_of_find?_eq_some found, by simpa using List.find?_some found⟩

theorem total_eq (consistent : Consistent dependencies declared imports) (package : String) :
    PackageScore.total package (PackageScore.additions
      (dependencies.map fun dependency => (dependency.name, dependency.count))
      ⟨declared.map Prod.fst, imports.entries⟩) = pointsFor dependencies declared imports package := by
  rw [PackageScore.total_eq_points consistent.nodup_used consistent.declaredOnce
    consistent.nodup_imported, detailsOf_stages]
  simp only [PackageScore.points, pointsFor, PackageScore.directPoints,
    PackageScore.entryPointPoints, decide_eq_true_eq]

theorem additions_nonneg (consistent : Consistent dependencies declared imports) :
    ∀ addition ∈ PackageScore.additions
      (dependencies.map fun dependency => (dependency.name, dependency.count))
      ⟨declared.map Prod.fst, imports.entries⟩, 0 ≤ addition.2 := by
  refine PackageScore.additions_nonneg (fun usage isUsed => ?_) fun entry isImported => ?_
  · obtain ⟨dependency, isThere, rfl⟩ := List.mem_map.mp isUsed
    exact (consistent.counted dependency isThere).le
  · obtain ⟨known, isKnown, -, same⟩ := mem_entries_of_imports isImported
    exact same ▸ consistent.imported.counted known isKnown

theorem weight_lt (consistent : Consistent dependencies declared imports)
    (small : ∀ package, pointsFor dependencies declared imports package < 2 ^ 52) (package : String) :
    PackageScore.weight package (PackageScore.additions
      (dependencies.map fun dependency => (dependency.name, dependency.count))
      ⟨declared.map Prod.fst, imports.entries⟩) < 2 ^ 52 := by
  have exact := PackageScore.weight_eq_total consistent.additions_nonneg package
  have here := small package
  rw [consistent.total_eq] at exact
  omega

/-- What the stages find is ranked, and the rows account for their scores. -/
theorem ranks (consistent : Consistent dependencies declared imports)
    (small : ∀ package, pointsFor dependencies declared imports package < 2 ^ 52) :
    ∃ rows, Project.packageScores dependencies declared imports = .ok rows ∧
      RanksPackages dependencies declared imports rows := by
  obtain ⟨rows, ranked⟩ := PackageScore.rank_ok fun package =>
    ⟨_, PackageScore.scoreOf_eq_total (consistent.weight_lt small package)⟩
  have ranks := PackageScore.rank_ranks ranked
  have rowOf : ∀ row ∈ rows,
      row.score = pointsFor dependencies declared imports row.package ∧ row.details =
        { isDirect := row.package ∈ declared.map Prod.fst
          importCount := (imports.usage row.package).count
          inEntryPoint := (imports.usage row.package).inEntryPoint
          dependencyCount := referencesTo row.package dependencies } := by
    intro row member
    obtain ⟨scored, details⟩ := PackageScore.row_of_rank ranked member
    rw [PackageScore.scoreOf_eq_total (consistent.weight_lt small row.package), consistent.total_eq] at scored
    exact ⟨(Except.ok.inj scored).symm, details.trans (detailsOf_stages dependencies declared imports _)⟩
  refine ⟨rows, ranked, ?_⟩
  exact {
    packages := by
      intro package
      rw [ranks.packages]
      have names : imports.entries.map ImportEntry.package = imports.map Prod.fst := by
        rw [ImportMap.entries, List.map_map]
        rfl
      rw [names, List.map_map]
      constructor
      · rintro (isUsed | known)
        · obtain ⟨dependency, isThere, rfl⟩ := List.mem_map.mp isUsed
          exact .inl (consistent.usedDeclared dependency isThere)
        · exact known
      · exact .inr
    distinct := ranks.distinct
    details := fun row member => (rowOf row member).2
    direct := by
      intro row member positive
      rw [(rowOf row member).2] at positive ⊢
      obtain ⟨dependency, isUsed, same⟩ := referencesTo_pos positive
      simpa [← same] using consistent.usedDeclared dependency isUsed
    explained := by
      intro row member
      rw [(rowOf row member).1, (rowOf row member).2]
      simp only [pointsFor, decide_eq_true_eq]
    ordered := ranks.ordered }

end Consistent

/-! ## The stages of a project -/

namespace Project

/-- Only what is declared is found to be used. -/
theorem dependencies_declared (system : System) (directory : String) :
    ∀ dependency ∈ (dependencies system (Path.parse directory.toList)).value,
      dependency.name ∈ (declaredOrNone system directory).value.map Prod.fst := by
  intro dependency member
  unfold dependencies at member
  cases known : dependencies? system (Path.parse directory.toList) with
  | error e =>
    rw [known] at member
    cases member
  | ok found =>
    rw [known] at member
    unfold dependencies? at known
    obtain ⟨declared, read, known⟩ := bind_eq_ok.mp known
    unfold declaredOrNone
    rw [mapError_eq_ok.mp read]
    split at known
    · cases known
      cases member
    · obtain ⟨files, -, known⟩ := bind_eq_ok.mp known
      cases known
      -- Ranking what is used leaves out declared packages and puts the others in order.
      rw [rankUsed, List.mem_mergeSort, List.mem_filter, countDependencies, List.mem_map] at member
      obtain ⟨⟨package, isDeclared, rfl⟩, -⟩ := member
      exact List.mem_map_of_mem isDeclared

theorem stages_consistent (system : System) (directory : String) :
    Consistent (dependencies system (Path.parse directory.toList)).value
      (declaredOrNone system directory).value
      (importsOrNone system (Path.parse directory.toList)).value where
  used := (dependencies_used system _).distinct
  counted dependency member := ((dependencies_used system _).counted dependency member).1
  declaredOnce := nodup_names_declaredOrNone system directory
  usedDeclared := dependencies_declared system directory
  imported := (imports_bounded system _).1

/-- Nothing is worth more than the volume of the file tree allows. -/
theorem pointsFor_le (system : System) (directory : String) (package : String) :
    pointsFor (dependencies system (Path.parse directory.toList)).value
      (declaredOrNone system directory).value
      (importsOrNone system (Path.parse directory.toList)).value package ≤
        9 * system.root.volume + 55 := by
  have used := dependencies_used system (Path.parse directory.toList)
  obtain ⟨sound, scored⟩ := imports_bounded system (Path.parse directory.toList)
  have references : referencesTo package (dependencies system (Path.parse directory.toList)).value ≤
      2 * system.root.volume := by
    unfold referencesTo
    cases found : List.find? _ (dependencies system (Path.parse directory.toList)).value with
    | none =>
      simp only [Option.map_none, Option.getD_none]
      omega
    | some dependency => exact (used.counted dependency (List.mem_of_find?_eq_some found)).2
  have counts : ((importsOrNone system (Path.parse directory.toList)).value.usage package).count ≤
      system.root.volume := by
    unfold ImportMap.usage
    cases found : Json.lookup package (importsOrNone system (Path.parse directory.toList)).value with
    | none =>
      simp only [Option.getD_none, ImportUsage.none]
      omega
    | some usage =>
      exact (ImportMap.count_le_score sound.counted (Json.mem_of_lookup found)).trans scored
  unfold pointsFor
  split <;> split <;> omega

/-- There are rows unless nothing is declared and nothing is imported. -/
theorem scoresIfAny_eq {dependencies : List Dependency} {declared : Manifest.Declared}
    {imports : ImportMap} {rows : List PackageScore}
    (scored : packageScores dependencies declared imports = .ok rows)
    (ranks : RanksPackages dependencies declared imports rows) :
    scoresIfAny dependencies declared imports = if rows = [] then none else some (.ok rows) := by
  have nothing : (declared.isEmpty && imports.isEmpty) = true ↔ rows = [] := by
    have packages := ranks.packages
    cases rows with
    | nil =>
      simp only [List.map_nil, List.not_mem_nil, false_iff, not_or] at packages
      have undeclared : declared = [] :=
        List.map_eq_nil_iff.mp (List.eq_nil_iff_forall_not_mem.mpr fun package => (packages package).1)
      have unimported : imports = [] :=
        List.map_eq_nil_iff.mp (List.eq_nil_iff_forall_not_mem.mpr fun package => (packages package).2)
      simp [undeclared, unimported]
    | cons row rest =>
      have named := (packages row.package).mp List.mem_cons_self
      constructor
      · intro empty
        rw [Bool.and_eq_true, List.isEmpty_iff, List.isEmpty_iff] at empty
        simp [empty.1, empty.2] at named
      · exact fun none => by cases none
  unfold scoresIfAny
  by_cases none : rows = []
  · rw [if_pos (nothing.mpr none), if_pos none]
  · rw [if_neg (mt nothing.mp none), if_neg none, scored]

/-- The packages of a directory are ranked by scores that are exact sums, as long as the sum of each
package stays below `2 ^ 52`. -/
theorem survey_ranks_packages (system : System) (clock : Clock) (directory : String)
    (small : ∀ package, pointsFor (dependencies system (Path.parse directory.toList)).value
      (declaredOrNone system directory).value
      (importsOrNone system (Path.parse directory.toList)).value package < 2 ^ 52) :
    ∃ rows,
      RanksPackages (dependencies system (Path.parse directory.toList)).value
        (declaredOrNone system directory).value
        (importsOrNone system (Path.parse directory.toList)).value rows ∧
      (survey system clock directory).value.scores =
        if rows = [] then none else some (.ok rows) := by
  obtain ⟨rows, scored, ranks⟩ := (stages_consistent system directory).ranks small
  exact ⟨rows, ranks, scoresIfAny_eq scored ranks⟩

/-! ## A sample -/

/-- A project in `/p` that declares `a` and imports it twice, once together with `b`. -/
def rankedTree : Listing :=
  .directory ['p']
    (.file "package.json".toList (.ofBytes (Text.Utf8.encode
        "\x7b\x22dependencies\x22:\x7b\x22a\x22:\x22^1\x22\x7d\x7d".toList))
      (.file "index.js".toList (.ofBytes (Text.Utf8.encode
          "import 'b';\nimport x from 'a';\nrequire('a');\n".toList))
        .nil))
    .nil

theorem rankedTree_volume : (System.mk rankedTree []).root.volume = 72 := by decide +kernel

theorem rankedTree_declared :
    (declaredOrNone ⟨rankedTree, []⟩ "/p").value.map Prod.fst = ["a"] := by decide +kernel

/-- The sample is small enough, and what it declares has a row. -/
theorem survey_ranks_packages_sample :
    ∃ rows,
      RanksPackages (dependencies ⟨rankedTree, []⟩ (Path.parse "/p".toList)).value
        (declaredOrNone ⟨rankedTree, []⟩ "/p").value
        (importsOrNone ⟨rankedTree, []⟩ (Path.parse "/p".toList)).value rows ∧
      (survey ⟨rankedTree, []⟩ ⟨.whole 0, .whole 0⟩ "/p").value.scores = some (.ok rows) ∧
      "a" ∈ rows.map PackageScore.package := by
  obtain ⟨rows, ranks, scores⟩ :=
    survey_ranks_packages ⟨rankedTree, []⟩ ⟨.whole 0, .whole 0⟩ "/p" fun package =>
      (pointsFor_le _ "/p" package).trans_lt (by rw [rankedTree_volume]; norm_num)
  have ranked : "a" ∈ rows.map PackageScore.package :=
    (ranks.packages "a").mpr (.inl (by rw [rankedTree_declared]; exact List.mem_cons_self))
  have some : rows ≠ [] := by
    rintro rfl
    cases ranked
  exact ⟨rows, ranks, scores.trans (if_neg some), ranked⟩

end Project
end ProjectGauge
