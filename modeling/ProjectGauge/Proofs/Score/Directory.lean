import ProjectGauge.Score.Directory
import ProjectGauge.Proofs.Number.Measure

/-!
# The limits of a directory score

A directory gets points for five signals.  Four of them stay within their limits, and so do the points for
the age of a directory that has been created before the clock's time.  But nothing keeps these from growing
with the time until then if the directory has been created later.

* `Signals` are the points one by one, and `compute_eq` says how they make up a score.
* `signals_capped` says which ages keep all signals within their limits.
-/

namespace ProjectGauge.DirectoryScore

open Binary64

/-! ## Signals one by one -/

/-- The points of a directory for each signal. -/
structure Signals where
  files : Int
  size : Int
  age : Int
  dependencies : Int
  imports : Int
  deriving DecidableEq

def signals (fileCount : Int) (megabytes days : Measure) (dependencyCount imports : Int) :
    Except NumberError Signals := do
  return { files := filePoints fileCount
           size := ← sizePoints megabytes
           age := ← agePoints days
           dependencies := dependencyPoints dependencyCount
           imports := importPoints imports }

def Signals.score (found : Signals) : Int :=
  min (basePoints + found.files + found.size + found.age + found.dependencies + found.imports) maxScore

theorem compute_eq (fileCount : Int) (megabytes days : Measure) (dependencyCount imports : Int) :
    compute fileCount megabytes days dependencyCount imports =
      (signals fileCount megabytes days dependencyCount imports).map Signals.score := by
  unfold compute signals
  cases sizePoints megabytes with
  | error error => rfl
  | ok size => cases agePoints days <;> rfl

/-- Signals within their limits. -/
structure Signals.Capped (found : Signals) : Prop where
  files : 0 ≤ found.files ∧ found.files ≤ maxFilePoints
  size : 0 ≤ found.size ∧ found.size ≤ maxSizePoints
  age : 0 ≤ found.age ∧ found.age ≤ maxAgePoints
  dependencies : 0 ≤ found.dependencies ∧ found.dependencies ≤ maxDependencyPoints
  imports : 0 ≤ found.imports ∧ found.imports ≤ maxImportPoints

/-- Where all other signals are within their limits, the age decides. -/
theorem Signals.capped_iff {found : Signals} (others : Signals.Capped { found with age := 0 })
    (nonneg : 0 ≤ found.age) : found.Capped ↔ found.age ≤ maxAgePoints := by
  constructor
  · exact fun capped => capped.age.2
  · exact fun bounded => { others with age := ⟨nonneg, bounded⟩ }

/-! ## The limit of each signal -/

theorem min_capped {points limit : Int} (nonneg : 0 ≤ points) (positive : 0 ≤ limit) :
    0 ≤ min points limit ∧ min points limit ≤ limit :=
  ⟨le_min nonneg positive, min_le_right _ _⟩

theorem sizePoints_eq {megabytes : Measure} {size : Rat} (hasSize : megabytes.HasValue size) :
    sizePoints megabytes = .ok (min size.floor maxSizePoints) := by
  rw [sizePoints, hasSize.floor]
  rfl

theorem agePoints_eq {days : Measure} {age : Rat} (hasAge : days.HasValue age)
    (finite : |age| < overflowBound) :
    agePoints days = .ok (max (maxAgePoints - (rounded (age / daysPerAgePoint)).floor) 0) := by
  obtain ⟨x, divided, hasValue⟩ := hasAge.dividedBy (by decide : 2 ≤ daysPerAgePoint) finite
  rw [agePoints, divided, ok_bind, hasValue.floor]
  rfl

/-- The age keeps within its limit unless it is negative, and not so close to zero that the quotient is
rounded to zero. -/
theorem age_capped_iff (age : Rat) :
    max (maxAgePoints - (rounded (age / daysPerAgePoint)).floor) 0 ≤ maxAgePoints ↔
      -15 * twoPow (-1074) ≤ age := by
  have double : twoPow (-1074) = 2 * twoPow (-1075) := by
    rw [show (-1074 : Int) = ((1 : Nat) : Int) + -1075 by norm_num, twoPow_add, twoPow_natCast, pow_one]
  have thirty : ((daysPerAgePoint : Nat) : Rat) = 30 := by norm_num [daysPerAgePoint]
  calc max (maxAgePoints - (rounded (age / daysPerAgePoint)).floor) 0 ≤ maxAgePoints
      ↔ 0 ≤ (rounded (age / daysPerAgePoint)).floor := by
        unfold maxAgePoints
        omega
    _ ↔ 0 ≤ rounded (age / daysPerAgePoint) := by
        rw [Rat.le_floor_iff, Int.cast_zero]
    -- A quotient that is rounded to zero is the only negative one that loses its sign.
    _ ↔ -twoPow (-1075) ≤ age / daysPerAgePoint := rounded_nonneg_iff _
    _ ↔ -15 * twoPow (-1074) ≤ age := by
        rw [thirty, le_div_iff₀ (by norm_num), double]
        constructor <;> intro <;> linarith

/-! ## All signals -/

/-- The points of a directory by the values of its signals. -/
def pointsFor (fileCount : Int) (size age : Rat) (dependencyCount imports : Int) : Signals where
  files := filePoints fileCount
  size := min size.floor maxSizePoints
  age := max (maxAgePoints - (rounded (age / daysPerAgePoint)).floor) 0
  dependencies := dependencyPoints dependencyCount
  imports := importPoints imports

variable {fileCount dependencyCount imports : Int} {megabytes days : Measure} {size age : Rat}

theorem signals_eq (hasSize : megabytes.HasValue size) (hasAge : days.HasValue age)
    (finite : |age| < overflowBound) :
    signals fileCount megabytes days dependencyCount imports =
      .ok (pointsFor fileCount size age dependencyCount imports) := by
  rw [signals, sizePoints_eq hasSize, agePoints_eq hasAge finite]
  rfl

theorem pointsFor_others (age : Rat) (files : 0 ≤ fileCount) (sized : 0 ≤ size)
    (dependencies : 0 ≤ dependencyCount) (imported : 0 ≤ imports) :
    Signals.Capped { pointsFor fileCount size age dependencyCount imports with age := 0 } where
  files := min_capped files (by decide)
  size := min_capped (Rat.le_floor_iff.mpr (by exact_mod_cast sized)) (by decide)
  age := ⟨le_refl 0, (by decide : 0 ≤ maxAgePoints)⟩
  dependencies := min_capped (Int.mul_nonneg dependencies (by decide)) (by decide)
  imports := min_capped imported (by decide)

theorem score_pointsFor_nothing (age : Rat) :
    (pointsFor 0 0 age 0 0).score ≤ basePoints + maxAgePoints ↔
      (pointsFor 0 0 age 0 0).age ≤ maxAgePoints := by
  have nothing : (pointsFor 0 0 age 0 0).score =
      min (basePoints + (pointsFor 0 0 age 0 0).age) maxScore := by
    have empty : (0 : Rat).floor = 0 := rfl
    simp [Signals.score, pointsFor, filePoints, dependencyPoints, importPoints, empty, maxFilePoints,
      maxSizePoints, maxDependencyPoints, maxImportPoints]
  rw [nothing]
  unfold basePoints maxAgePoints maxScore
  omega

/-- The signals of a directory stay within their limits if and only if its age is not negative, or so little
that its quotient is rounded to zero; all but the age do so anyway.  A directory that has nothing but its age
then scores `40` at most, and otherwise more. -/
theorem signals_capped (files : 0 ≤ fileCount) (dependencies : 0 ≤ dependencyCount)
    (imported : 0 ≤ imports) (hasSize : megabytes.HasValue size) (sized : 0 ≤ size)
    (hasAge : days.HasValue age) (finite : |age| < overflowBound) :
    ∃ found, signals fileCount megabytes days dependencyCount imports = .ok found ∧
      compute fileCount megabytes days dependencyCount imports = .ok found.score ∧
      Signals.Capped { found with age := 0 } ∧ 0 ≤ found.age ∧
      (found.Capped ↔ -15 * twoPow (-1074) ≤ age) ∧
      (fileCount = 0 → size = 0 → dependencyCount = 0 → imports = 0 →
        (found.score ≤ basePoints + maxAgePoints ↔ -15 * twoPow (-1074) ≤ age)) := by
  have computed : signals fileCount megabytes days dependencyCount imports =
      .ok (pointsFor fileCount size age dependencyCount imports) := signals_eq hasSize hasAge finite
  have others := pointsFor_others age files sized dependencies imported
  have nonneg : 0 ≤ (pointsFor fileCount size age dependencyCount imports).age := le_max_right _ _
  refine ⟨_, computed, by rw [compute_eq, computed]; rfl, others, nonneg, ?_, ?_⟩
  · exact (Signals.capped_iff others nonneg).trans (age_capped_iff age)
  · rintro rfl rfl rfl rfl
    exact (score_pointsFor_nothing age).trans (age_capped_iff age)

/-- A directory with so many entries, so large, and with so many dependencies and imports that each of these
signals is at its limit.  Its ninety days cost three points of its age. -/
theorem signals_capped_large :
    ∃ found, signals 1000 (.real (.finite false 5000)) (.whole 90) 40 500 = .ok found ∧ found.Capped ∧
      found = ⟨maxFilePoints, maxSizePoints, 27, maxDependencyPoints, maxImportPoints⟩ := by
  have hasSize : (Measure.real (.finite false 5000)).HasValue 5000 :=
    IsMagnitude.hasValue ⟨5000, 0, by norm_num, by norm_num, by norm_num [twoPow]⟩ (by norm_num)
  have hasAge : (Measure.whole 90).HasValue 90 := Int.cast_ofNat 90
  have finite : |(90 : Rat)| < overflowBound := by decide +kernel
  obtain ⟨found, computed, -, -, -, capped, -⟩ :=
    signals_capped (show (0 : Int) ≤ 1000 by decide) (show (0 : Int) ≤ 40 by decide)
      (show (0 : Int) ≤ 500 by decide) hasSize (by norm_num) hasAge finite
  have points : signals 1000 (.real (.finite false 5000)) (.whole 90) 40 500 =
      .ok ⟨maxFilePoints, maxSizePoints, 27, maxDependencyPoints, maxImportPoints⟩ := by
    decide +kernel
  refine ⟨found, computed, capped.mpr ?_, Except.ok.inj (computed.symm.trans points)⟩
  linarith [twoPow_pos (-1074)]

/-- An empty directory that is created in three hundred days scores more than a new one. -/
theorem age_exceeds_limit :
    agePoints (.real (.finite true 300)) = .ok 40 ∧ ¬ (40 : Int) ≤ maxAgePoints ∧
      compute 0 (.real zero) (.real (.finite true 300)) 0 0 = .ok 50 := by
  decide +kernel

end ProjectGauge.DirectoryScore
