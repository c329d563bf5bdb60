import ProjectGauge.Proofs.Project.Counts
import ProjectGauge.Proofs.Score.Range
import ProjectGauge.Proofs.Tally

/-!
# What surveys come to

A survey of any directory can be scored and counted, as long as the file tree does not hold an
unimaginable number of bytes.  The tally of several surveys is made of their dependencies one after the
other, and a directory that is not there adds nothing to it.

* `volume_lt_volumeLimit`: a file system that counts in 64 bits holds no such number of bytes.
* `scoresIfAny_ok` and `counts_of_tally` bound what a report computes with.
* `dependencies_of_absent` and `imports_of_absent` say what is found where there is no directory.
-/

namespace ProjectGauge

open Files

/-- A number of bytes that no file tree comes near. -/
def volumeLimit : Nat := 2 ^ 1000

/-- Where the files and the bytes of each are counted in 64 bits, the volume is far below the limit. -/
theorem volume_lt_volumeLimit {listing : Listing} (few : listing.fileCount ≤ 2 ^ 64)
    (within : listing.FilesWithin (2 ^ 64)) : listing.volume < volumeLimit := by
  calc listing.volume
      ≤ listing.fileCount * 2 ^ 64 := Listing.volume_le_fileCount within
    _ ≤ 2 ^ 64 * 2 ^ 64 := Nat.mul_le_mul_right _ few
    _ = 2 ^ (64 + 64) := (pow_add 2 64 64).symm
    _ < volumeLimit := by
      unfold volumeLimit
      exact pow_lt_pow_right₀ (by norm_num) (by norm_num)

/-! ## Scores of a survey -/

theorem volume_small {system : System} (small : system.root.volume < volumeLimit) :
    7 * (2 * system.root.volume) + 55 < PackageScore.pointsLimit := by
  have split : PackageScore.pointsLimit = 1048576 * 2 ^ 1000 := by
    rw [PackageScore.pointsLimit, show 1048576 = 2 ^ 20 by norm_num, ← pow_add]
  have one : 0 < 2 ^ 1000 := by positivity
  unfold volumeLimit at small
  rw [split]
  -- The power is too large to be computed with, so it gets a name.
  generalize 2 ^ 1000 = limit at small one ⊢
  omega

theorem mem_entries_of_imports {imports : ImportMap} {entry : ImportEntry}
    (member : entry ∈ imports.entries) :
    ∃ known ∈ imports, known.1 = entry.package ∧ known.2.count = entry.usageCount := by
  unfold ImportMap.entries at member
  rw [List.mem_map] at member
  obtain ⟨known, isKnown, same⟩ := member
  exact ⟨known, isKnown, by rw [← same], by rw [← same]⟩

/-- The packages of every survey have scores. -/
theorem Project.packageScores_ok {system : System} (small : system.root.volume < volumeLimit)
    (directory : String) (project : Path) :
    ∃ scores, packageScores (dependencies system project).value (declaredOrNone system directory).value
      (importsOrNone system project).value = .ok scores := by
  have used := dependencies_used system project
  obtain ⟨sound, scored⟩ := imports_bounded system project
  refine PackageScore.rank_ok_of_bounded (volume_small small) ?_ ?_ ?_ ?_ ?_
  · rw [List.map_map]
    exact used.distinct
  · exact nodup_names_declaredOrNone system directory
  · simp only [ImportMap.entries, List.map_map]
    exact sound.distinct
  · intro usage member
    rw [List.mem_map] at member
    obtain ⟨dependency, isUsed, same⟩ := member
    obtain ⟨positive, bounded⟩ := used.counted dependency isUsed
    rw [← same]
    exact ⟨Int.le_of_lt positive, by exact_mod_cast bounded⟩
  · intro entry member
    obtain ⟨known, isKnown, -, same⟩ := mem_entries_of_imports member
    have nonneg := sound.counted known isKnown
    have bounded := ImportMap.count_le_score sound.counted isKnown
    rw [← same]
    refine ⟨nonneg, ?_⟩
    have twice : known.2.count ≤ ((2 * system.root.volume : Nat) : Int) := by
      push_cast
      omega
    exact_mod_cast twice

theorem Project.scoresIfAny_ok {system : System} (small : system.root.volume < volumeLimit)
    (directory : String) (project : Path)
    {scores : Except NumberError (List PackageScore)}
    (scored : scoresIfAny (dependencies system project).value (declaredOrNone system directory).value
      (importsOrNone system project).value = some scores) : ∃ found, scores = .ok found := by
  unfold scoresIfAny at scored
  split at scored
  · cases scored
  · cases scored
    exact packageScores_ok small directory project

/-! ## The tally of surveys -/

namespace Survey

/-- What a survey adds to a tally. -/
def additions (survey : Survey) : List Tally.Addition :=
  survey.dependencies.map fun dependency => (dependency, survey.directory)

theorem tally_eq_ofAdditions (surveys : List Survey) :
    tally surveys = Tally.ofAdditions (surveys.flatMap additions) := by
  unfold tally Tally.ofAdditions
  rw [List.foldl_flatMap]
  congr 1
  funext tally survey
  unfold addTo additions
  rw [List.foldl_map]

theorem importTotal_eq_sum (surveys : List Survey) :
    importTotal surveys = (surveys.map fun survey => survey.imports.score).sum := by
  unfold importTotal
  rw [← List.sum_eq_foldl]

end Survey

/-- No survey counts more references to one package than its dependencies are bounded by. -/
theorem Project.Used.sum_counts_le {bound : Nat} {dependencies : List Dependency}
    (used : Used bound dependencies) (name : String) :
    ((dependencies.filter fun dependency => dependency.name = name).map Dependency.count).sum ≤
      bound := by
  obtain ⟨distinct, counted⟩ := used
  induction dependencies with
  | nil => simp
  | cons first rest inductionHypothesis =>
    rw [List.map_cons, List.nodup_cons] at distinct
    have others := inductionHypothesis distinct.2 fun dependency member =>
      counted dependency (List.mem_cons_of_mem _ member)
    by_cases same : first.name = name
    · -- A package is listed once, so behind its dependency there is no other one.
      have alone : (rest.filter fun dependency => dependency.name = name) = [] := by
        rw [List.filter_eq_nil_iff]
        intro dependency member again
        apply distinct.1
        rw [same, ← of_decide_eq_true again]
        exact List.mem_map_of_mem member
      have here := (counted first List.mem_cons_self).2
      rw [List.filter_cons_of_pos (by simpa using same), alone]
      simpa using here
    · rw [List.filter_cons_of_neg (by simpa using same)]
      exact others

theorem counts_of_additions {bound : Nat} {surveys : List Survey}
    (used : ∀ survey ∈ surveys, Project.Used bound survey.dependencies) (name : String) :
    0 ≤ (Tally.gathered (Tally.additionsOf name (surveys.flatMap Survey.additions))).count ∧
      (Tally.gathered (Tally.additionsOf name (surveys.flatMap Survey.additions))).count ≤
        surveys.length * bound := by
  induction surveys with
  | nil => simp [Tally.gathered, Tally.additionsOf]
  | cons survey rest inductionHypothesis =>
    obtain ⟨nonneg, bounded⟩ := inductionHypothesis fun other member =>
      used other (List.mem_cons_of_mem _ member)
    have usedHere := used survey List.mem_cons_self
    have here := usedHere.sum_counts_le name
    have hereNonneg : 0 ≤ ((survey.dependencies.filter fun dependency =>
        dependency.name = name).map Dependency.count).sum := by
      apply List.sum_nonneg
      intro count member
      rw [List.mem_map] at member
      obtain ⟨dependency, isThere, same⟩ := member
      rw [← same]
      exact Int.le_of_lt (usedHere.counted dependency (List.mem_of_mem_filter isThere)).1
    -- The additions of the first survey stand in front of all others.
    have split : (Tally.gathered (Tally.additionsOf name
        ((survey :: rest).flatMap Survey.additions))).count =
        ((survey.dependencies.filter fun dependency => dependency.name = name).map
          Dependency.count).sum +
        (Tally.gathered (Tally.additionsOf name (rest.flatMap Survey.additions))).count := by
      simp only [Tally.gathered, Tally.additionsOf, List.flatMap_cons, List.filter_append,
        List.map_append, List.sum_append, Survey.additions, List.filter_map, List.map_map]
      rfl
    rw [split, List.length_cons]
    push_cast
    rw [Int.add_mul]
    omega

/-- The counts of a tally are not negative, and they grow with the number of surveys only. -/
theorem counts_of_tally {bound : Nat} {surveys : List Survey}
    (used : ∀ survey ∈ surveys, Project.Used bound survey.dependencies) :
    ∀ entry ∈ Survey.tally surveys, 0 ≤ entry.2.count ∧ entry.2.count ≤ surveys.length * bound := by
  intro entry member
  rw [Survey.tally_eq_ofAdditions] at member
  rw [Tally.eq_gathered_of_mem member]
  exact counts_of_additions used entry.1

/-! ## Absent directories -/

namespace Project

/-- A path that leads to a directory which exists. -/
def Present (system : System) (path : Path) : Prop :=
  ∃ base, system.resolve path = .ok base ∧ system.isDirectory? base = .ok true

theorem listing_of_absent {system : System} {path : Path} (absent : ¬ Present system path) :
    ∃ e, listing system path = .error e := by
  cases listed : listing system path with
  | error e => exact ⟨e, rfl⟩
  | ok files =>
    unfold listing at listed
    obtain ⟨base, resolved, listed⟩ := bind_eq_ok.mp listed
    obtain ⟨isThere, -, listed⟩ := bind_eq_ok.mp listed
    split at listed
    · cases listed
    · obtain ⟨isDirectory, tested, listed⟩ := bind_eq_ok.mp listed
      split at listed
      · cases listed
      · rename_i directory
        have isTrue : isDirectory = true := by simpa using directory
        rw [isTrue] at tested
        exact absurd ⟨base, mapError_eq_ok.mp resolved, mapError_eq_ok.mp tested⟩ absent

theorem sources_of_absent {system : System} {path : Path} (absent : ¬ Present system path) :
    ∃ e, sources system path = .error e := by
  obtain ⟨e, unlisted⟩ := listing_of_absent absent
  exact ⟨e, by unfold sources scan; rw [unlisted]; rfl⟩

/-- Where there is no directory, there are no dependencies. -/
theorem dependencies_of_absent {system : System} {path : Path} (absent : ¬ Present system path) :
    (dependencies system path).value = [] := by
  obtain ⟨e, unscanned⟩ := sources_of_absent absent
  -- The manifest may name dependencies all the same, but then the sources are not found.
  unfold dependencies
  split
  · rename_i found known
    unfold dependencies? at known
    obtain ⟨declared, -, known⟩ := bind_eq_ok.mp known
    rw [unscanned] at known
    split at known
    · cases known
      rfl
    · cases known
  · rfl

/-- Where there is no directory, there are no imports. -/
theorem imports_of_absent {system : System} {path : Path} (absent : ¬ Present system path) :
    (importsOrNone system path).value = [] := by
  obtain ⟨e, unscanned⟩ := sources_of_absent absent
  unfold importsOrNone imports
  rw [unscanned]
  rfl

end Project
end ProjectGauge
