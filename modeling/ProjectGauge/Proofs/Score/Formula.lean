import ProjectGauge.Proofs.Number.Order
import ProjectGauge.Proofs.Score.Directory
import Mathlib.Data.Rat.Floor

/-!
# The formula of a directory score

The age of a directory is divided in binary64 numbers, but the points for it are those of the exact quotient:
rounding down hides the rounding of a short age, and after nine hundred days there are no points left to
lose.  The score grows with each of its signals and falls with the age, and it stays between the points of
every directory and a hundred.

* `compute_exact` gives the score of any directory in exact arithmetic.
* `compute_ordered` compares the scores of two directories.
-/

namespace ProjectGauge.DirectoryScore

open Binary64

variable {fileCount dependencyCount imports : Int} {x y : Binary64} {size age : Rat}

/-- The points for a size and an age that are binary64 numbers make up the score. -/
theorem compute_points (hasSize : x.HasValue size) (hasAge : y.HasValue age) :
    compute fileCount (.real x) (.real y) dependencyCount imports =
      .ok (pointsFor fileCount size age dependencyCount imports).score := by
  have computed : signals fileCount (.real x) (.real y) dependencyCount imports =
      .ok (pointsFor fileCount size age dependencyCount imports) :=
    signals_eq hasSize hasAge hasAge.abs_lt
  rw [compute_eq, computed]
  rfl

/-! ## Exact points -/

/-- No age gets a point more or less because its quotient is rounded. -/
theorem agePoints_exact (isMagnitude : IsMagnitude age) :
    max (maxAgePoints - (rounded (age / daysPerAgePoint)).floor) 0 =
      max (maxAgePoints - (age / daysPerAgePoint).floor) 0 := by
  rcases lt_or_ge age (2 ^ 53) with short | long
  · rw [floor_rounded_div isMagnitude short (by decide)]
  · -- After so many days both quotients take all points away.
    have thirty : ((daysPerAgePoint : Nat) : Rat) = 30 := by norm_num [daysPerAgePoint]
    have exact : (30 : Int) ≤ age / daysPerAgePoint := by
      rw [thirty, le_div_iff₀ (by norm_num)]
      push_cast
      linarith
    have computed : (30 : Int) ≤ rounded (age / daysPerAgePoint) := by
      rw [← rounded_intCast (by norm_num : (30 : Int).natAbs < 2 ^ 53)]
      exact rounded_mono exact
    rw [← Rat.le_floor_iff] at exact computed
    unfold maxAgePoints
    omega

/-- The score of a directory that was not created after the clock's time is that of its signals in exact
arithmetic. -/
theorem compute_exact (hasSize : x.HasValue size) (hasAge : y.HasValue age) (aged : 0 ≤ age) :
    compute fileCount (.real x) (.real y) dependencyCount imports =
      .ok (min 100 (10 + min fileCount 30 + min size.floor 30 + max (30 - (age / 30).floor) 0 +
        min (3 * dependencyCount) 15 + min imports 15)) := by
  have isMagnitude : IsMagnitude age := abs_of_nonneg aged ▸ hasAge.isMagnitude
  rw [compute_points hasSize hasAge]
  unfold Signals.score pointsFor
  dsimp only
  rw [agePoints_exact isMagnitude, min_comm, show ((daysPerAgePoint : Nat) : Rat) = 30 from rfl]
  unfold filePoints dependencyPoints importPoints basePoints maxFilePoints maxSizePoints maxAgePoints
    maxDependencyPoints maxImportPoints maxScore pointsPerDependency
  rw [mul_comm dependencyCount]

theorem sampleSize_hasValue : (finite false (3 / 2)).HasValue (3 / 2) :=
  IsMagnitude.hasValue ⟨3, -1, by norm_num, by norm_num, by norm_num [twoPow]⟩ (by norm_num)

theorem sampleAge_hasValue : (finite false (30 - 1 / 2 ^ 48)).HasValue (30 - 1 / 2 ^ 48) :=
  IsMagnitude.hasValue ⟨30 * 2 ^ 48 - 1, -48, by norm_num, by norm_num, by norm_num [twoPow]⟩ (by norm_num)

/-- A directory of a megabyte and a half that is thirty days old but for the least moment that a binary64
number tells has lost no point for its age. -/
theorem compute_exact_before_thirty_days :
    (0 : Rat) ≤ 30 - 1 / 2 ^ 48 ∧
      compute 3 (.real (.finite false (3 / 2))) (.real (.finite false (30 - 1 / 2 ^ 48))) 2 1 = .ok 51 := by
  have aged : (0 : Rat) ≤ 30 - 1 / 2 ^ 48 := by norm_num
  refine ⟨aged, ?_⟩
  rw [compute_exact sampleSize_hasValue sampleAge_hasValue aged]
  decide +kernel

/-! ## Order -/

/-- A score grows with the points of each signal. -/
theorem Signals.score_mono {points otherPoints : Signals} (files : points.files ≤ otherPoints.files)
    (size : points.size ≤ otherPoints.size) (age : points.age ≤ otherPoints.age)
    (dependencies : points.dependencies ≤ otherPoints.dependencies)
    (imports : points.imports ≤ otherPoints.imports) : points.score ≤ otherPoints.score := by
  unfold Signals.score
  omega

/-- Every score that is computed lies between ten and a hundred, as long as only the age may be negative. -/
theorem compute_bounds {megabytes days : Measure} {score : Int}
    (computed : compute fileCount megabytes days dependencyCount imports = .ok score)
    (files : 0 ≤ fileCount) (sized : ∀ whole, megabytes.floor = .ok whole → 0 ≤ whole)
    (dependencies : 0 ≤ dependencyCount) (imported : 0 ≤ imports) : 10 ≤ score ∧ score ≤ 100 := by
  unfold compute at computed
  obtain ⟨points, hasPoints, computed⟩ := bind_eq_ok.mp computed
  obtain ⟨age, hasAge, computed⟩ := bind_eq_ok.mp computed
  cases computed
  have sizeNonneg : 0 ≤ points := by
    unfold sizePoints at hasPoints
    obtain ⟨whole, floored, hasPoints⟩ := bind_eq_ok.mp hasPoints
    cases hasPoints
    exact (min_capped (sized whole floored) (by decide)).1
  have ageNonneg : 0 ≤ age := by
    unfold agePoints at hasAge
    obtain ⟨x, -, hasAge⟩ := bind_eq_ok.mp hasAge
    obtain ⟨spent, -, hasAge⟩ := bind_eq_ok.mp hasAge
    cases hasAge
    exact le_max_right _ _
  unfold filePoints dependencyPoints importPoints basePoints maxFilePoints maxDependencyPoints
    maxImportPoints pointsPerDependency maxScore
  omega

variable {otherCount otherDependencies otherImports : Int} {otherX otherY : Binary64} {otherSize otherAge : Rat}

theorem score_pointsFor_mono (files : fileCount ≤ otherCount) (sizes : size ≤ otherSize)
    (ages : otherAge ≤ age) (dependencies : dependencyCount ≤ otherDependencies)
    (imported : imports ≤ otherImports) :
    (pointsFor fileCount size age dependencyCount imports).score ≤
      (pointsFor otherCount otherSize otherAge otherDependencies otherImports).score := by
  have quotients : otherAge / daysPerAgePoint ≤ age / daysPerAgePoint :=
    div_le_div_of_nonneg_right ages (Nat.cast_nonneg _)
  have spent : (rounded (otherAge / daysPerAgePoint)).floor ≤ (rounded (age / daysPerAgePoint)).floor :=
    Int.floor_mono (rounded_mono quotients)
  have megabytes : size.floor ≤ otherSize.floor := Int.floor_mono sizes
  exact Signals.score_mono (min_le_min_right _ files) (min_le_min_right _ megabytes)
    (max_le_max_right _ (Int.sub_le_sub_left spent _))
    (min_le_min_right _ (Int.mul_le_mul_of_nonneg_right dependencies (by decide)))
    (min_le_min_right _ imported)

/-- The score of a directory lies between ten and a hundred, whatever its age.  It is at most that of any
other directory with no fewer entries, megabytes, dependencies and imports that is no older. -/
theorem compute_ordered (hasSize : x.HasValue size) (hasAge : y.HasValue age)
    (otherHasSize : otherX.HasValue otherSize) (otherHasAge : otherY.HasValue otherAge)
    (filesNonneg : 0 ≤ fileCount) (sized : 0 ≤ size) (dependenciesNonneg : 0 ≤ dependencyCount)
    (importsNonneg : 0 ≤ imports) (files : fileCount ≤ otherCount) (sizes : size ≤ otherSize)
    (ages : otherAge ≤ age) (dependencies : dependencyCount ≤ otherDependencies)
    (imported : imports ≤ otherImports) :
    ∃ score otherScore, compute fileCount (.real x) (.real y) dependencyCount imports = .ok score ∧
      compute otherCount (.real otherX) (.real otherY) otherDependencies otherImports = .ok otherScore ∧
      10 ≤ score ∧ score ≤ otherScore ∧ otherScore ≤ 100 := by
  have computed : compute fileCount (.real x) (.real y) dependencyCount imports = .ok _ :=
    compute_points hasSize hasAge
  have otherComputed : compute otherCount (.real otherX) (.real otherY) otherDependencies otherImports =
      .ok _ := compute_points otherHasSize otherHasAge
  have low := (compute_bounds computed filesNonneg (fun _ => hasSize.floor_nonneg sized) dependenciesNonneg
    importsNonneg).1
  have high := (compute_bounds otherComputed (filesNonneg.trans files)
    (fun _ => otherHasSize.floor_nonneg (sized.trans sizes)) (dependenciesNonneg.trans dependencies)
    (importsNonneg.trans imported)).2
  exact ⟨_, _, computed, otherComputed, low, score_pointsFor_mono files sizes ages dependencies imported, high⟩

/-- A directory that was created after the clock's time scores more than the one above with as much in it. -/
theorem compute_ordered_sample :
    ∃ score otherScore,
      compute 3 (.real (.finite false (3 / 2))) (.real (.finite false (30 - 1 / 2 ^ 48))) 2 1 = .ok score ∧
      compute 3 (.real (.finite false (3 / 2))) (.real (.finite true 300)) 2 1 = .ok otherScore ∧
      10 ≤ score ∧ score ≤ otherScore ∧ otherScore ≤ 100 := by
  have hasAge : (finite true 300).HasValue (-300) :=
    ⟨true, 300, rfl, rfl, ⟨300, 0, by norm_num, by norm_num, by norm_num [twoPow]⟩,
      natCast_lt_overflowBound (n := 300) (by norm_num)⟩
  exact compute_ordered sampleSize_hasValue sampleAge_hasValue sampleSize_hasValue hasAge (by decide)
    (by norm_num) (by decide) (by decide) le_rfl le_rfl (by norm_num) le_rfl le_rfl

end ProjectGauge.DirectoryScore
