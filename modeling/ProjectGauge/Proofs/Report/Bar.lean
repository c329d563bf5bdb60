import ProjectGauge.Proofs.Report.Width

/-!
# The cells of a bar

A share is computed in binary64 numbers, but its bar has the cells of the exact share, as long as the greatest
count has at most forty bits.  In a usage chart a count may be negative.  It has no cells then, unless it is so
far below zero that its share overflows, and then there is no chart.

* `share_eq` says what is computed for a count, and `share_overflow` when nothing can be.
* `share_filled` and `usageChartText_ok`: without negative counts there are bars and a chart, however large the
  counts are.
* `bars_exact` gives the bars of both charts in exact arithmetic.
-/

namespace ProjectGauge.Report

open Binary64

variable {count greatest : Int}

/-! ## What is computed -/

/-- The share of a count does not overflow. -/
def Drawable (count greatest : Int) : Prop :=
  |multiple 30 count greatest| < overflowBound

theorem drawable_of_nonneg (nonneg : 0 ≤ count) (atMost : count ≤ greatest) : Drawable count greatest :=
  abs_multiple_lt (by norm_num) nonneg atMost

theorem ofInt_barCells : ofInt barCells = .ok (.finite false (30 : Nat)) := by
  decide +kernel

/-- A quotient is not larger than its thirtieth multiple. -/
theorem Drawable.quotient (drawable : Drawable count greatest) :
    |rounded (count / greatest)| < overflowBound := by
  refine lt_of_le_of_lt ?_ drawable
  -- The quotient is a number itself, so it passes through another rounding.
  have exact := rounded_of_isMagnitude (isMagnitude_abs_rounded (count / greatest))
  calc |rounded (count / greatest)| = |rounded (rounded (count / greatest))| := by rw [exact]
    _ ≤ |multiple 30 count greatest| := by
        refine abs_rounded_mono ?_
        rw [abs_mul, Nat.cast_ofNat, abs_of_pos (by norm_num : (0 : Rat) < 30)]
        linarith [abs_nonneg (rounded (count / greatest : Rat))]

/-- One half more overflows only where the multiple does, since the bar has no more cells than thirty. -/
theorem Drawable.add_half (drawable : Drawable count greatest) (atMost : count ≤ greatest)
    (nonneg : 0 ≤ greatest) : |rounded (multiple 30 count greatest + 1 / 2)| < overflowBound := by
  have few : multiple 30 count greatest ≤ (30 : Nat) := multiple_le (by norm_num) atMost nonneg
  have low : multiple 30 count greatest ≤ rounded (multiple 30 count greatest + 1 / 2) :=
    le_rounded (isMagnitude_abs_rounded _) (by linarith)
  have high : rounded (multiple 30 count greatest + 1 / 2) ≤ (31 : Nat) :=
    rounded_le (isMagnitude_natCast (by norm_num)) (by
      push_cast at few ⊢
      linarith)
  exact abs_lt.mpr ⟨(abs_lt.mp drawable).1.trans_le low, high.trans_lt (natCast_lt_overflowBound (by norm_num))⟩

theorem share_eq (atMost : count ≤ greatest) (positive : 0 < greatest) (drawable : Drawable count greatest) :
    share count greatest barCells = .ok (rounded (multiple 30 count greatest + 1 / 2)).floor :=
  share_of_finite (by norm_num : 30 < 2 ^ 53) positive drawable.quotient drawable
    (drawable.add_half atMost positive.le)

/-- The errors of a number that overflows. -/
inductive IsOverflow : NumberError → Prop where
  | quotient : IsOverflow .quotientTooLarge
  | multiple : IsOverflow .infinityToInteger

theorem share_overflow (positive : 0 < greatest) (overflow : ¬Drawable count greatest) :
    ∃ error, share count greatest barCells = .error error ∧ IsOverflow error := by
  unfold share
  rw [if_neg positive.ne']
  -- Either the quotient overflows, or its multiple does.
  cases divided : ofQuotient count greatest with
  | error error =>
    refine ⟨error, rfl, ?_⟩
    unfold ofQuotient at divided
    split at divided
    · cases divided
    · cases divided
      exact .quotient
  | ok quotient =>
    have quotientValue := hasValue_of_ofQuotient divided positive
    obtain ⟨negative, product⟩ :=
      quotientValue.mul_infinite (natCast_hasValue (by norm_num)) (not_lt.mp overflow)
    refine ⟨.infinityToInteger, ?_, .multiple⟩
    rw [ok_bind, ofInt_barCells, ok_bind, product]
    rfl

/-! ## Filled cells -/

/-- The filled cells of a bar. -/
def filledCells (count greatest : Int) : Nat :=
  (rounded (multiple 30 count greatest + 1 / 2)).floor.toNat

theorem filledCells_mono {more : Int} (ordered : count ≤ more) (nonneg : 0 ≤ greatest) :
    filledCells count greatest ≤ filledCells more greatest :=
  Int.toNat_le_toNat (computedCells_mono 30 ordered nonneg)

theorem filledCells_self (positive : 0 < greatest) : filledCells greatest greatest = 30 := by
  rw [filledCells, multiple_self (by norm_num) positive]
  decide +kernel

theorem filledCells_none (count : Int) : filledCells count 0 = 0 :=
  congrArg Int.toNat (computedCells_none 30 count)

theorem filledCells_le (atMost : count ≤ greatest) (nonneg : 0 ≤ greatest) :
    filledCells count greatest ≤ 30 := by
  rcases nonneg.eq_or_lt with rfl | positive
  · rw [filledCells_none]
    exact Nat.zero_le _
  · exact (filledCells_mono atMost nonneg).trans_eq (filledCells_self positive)

theorem share_filled (nonneg : 0 ≤ count) (atMost : count ≤ greatest) :
    share count greatest barCells = .ok (filledCells count greatest : Int) := by
  have cells := computedCells_nonneg 30 nonneg (nonneg.trans atMost)
  have computed := share_of_nonneg (by norm_num : 30 < 2 ^ 53) nonneg atMost
  rwa [← Int.toNat_of_nonneg cells] at computed

theorem rankingBar_eq (nonneg : 0 ≤ count) (atMost : count ≤ greatest) :
    rankingBar count greatest barCells =
      .ok (List.replicate (filledCells count greatest) '█' ++
        List.replicate (30 - filledCells count greatest) '░') := by
  have bar := rankingBar_of_nonneg (by norm_num : 30 < 2 ^ 53) nonneg atMost
  -- Thirty cells are never overshot.
  have all : filledOf 30 count greatest = filledCells count greatest :=
    min_eq_left (filledCells_le atMost (nonneg.trans atMost))
  rwa [all] at bar

/-! ## Exact cells -/

/-- The cells of a count in exact arithmetic: its share of the bar, a half rounded up. -/
def exactCells (count greatest : Int) : Int :=
  (60 * count + greatest) / (2 * greatest)

theorem share_exact (nonneg : 0 ≤ count) (atMost : count ≤ greatest) (positive : 0 < greatest)
    (small : greatest < 2 ^ 40) : share count greatest barCells = .ok (exactCells count greatest) := by
  rw [share_eq atMost positive (drawable_of_nonneg nonneg atMost), multiple, Nat.cast_ofNat,
    floor_rounded_share nonneg atMost positive small]
  rfl

theorem exactCells_nonneg (nonneg : 0 ≤ count) (positive : 0 < greatest) : 0 ≤ exactCells count greatest :=
  Int.ediv_nonneg (by omega) (by omega)

theorem exactCells_le (atMost : count ≤ greatest) (positive : 0 < greatest) :
    exactCells count greatest ≤ barCells := by
  have less : exactCells count greatest < 31 := Int.ediv_lt_of_lt_mul (by omega) (by omega)
  unfold barCells
  omega

theorem cellRun_of_nonpos {n : Int} (nonpos : n ≤ 0) (cell : Char) : cellRun n cell = [] := by
  rw [cellRun, Int.toNat_of_nonpos nonpos, List.replicate_zero]

/-- A negative count has no cells, computed or not. -/
theorem share_of_neg (negative : count < 0) (positive : 0 < greatest) (drawable : Drawable count greatest) :
    ∃ filled, share count greatest barCells = .ok filled ∧ filled ≤ 0 ∧ exactCells count greatest ≤ 0 := by
  have cells : multiple 30 count greatest ≤ 0 :=
    (multiple_mono 30 negative.le positive.le).trans_eq (multiple_zero 30 greatest)
  have sum : rounded (multiple 30 count greatest + 1 / 2) ≤ 1 / 2 :=
    rounded_le (isMagnitude_of_bits 1 1 (by norm_num) (by norm_num) (by norm_num)) (by linarith)
  refine ⟨_, share_eq (by omega) positive drawable, ?_, ?_⟩
  · have less : (rounded (multiple 30 count greatest + 1 / 2)).floor < 1 := by
      rw [Rat.floor_lt_iff]
      push_cast
      linarith
    omega
  · have less : exactCells count greatest < 1 := Int.ediv_lt_of_lt_mul (by omega) (by omega)
    omega

/-! ## Charts -/

theorem le_foldl_max (rest : List Dependency) (start : Int) :
    start ≤ rest.foldl (fun greatest dependency => max greatest dependency.count) start ∧
      ∀ dependency ∈ rest, dependency.count ≤
        rest.foldl (fun greatest dependency => max greatest dependency.count) start := by
  induction rest generalizing start with
  | nil => exact ⟨Int.le_refl start, fun _ member => by cases member⟩
  | cons first rest inductionHypothesis =>
    obtain ⟨started, others⟩ := inductionHypothesis (max start first.count)
    refine ⟨Int.le_trans (Int.le_max_left _ _) started, ?_⟩
    intro dependency member
    rw [List.mem_cons] at member
    rcases member with same | inRest
    · rw [same]
      exact Int.le_trans (Int.le_max_right _ _) started
    · exact others dependency inRest

theorem count_le_greatestCount {dependencies : List Dependency} {dependency : Dependency}
    (member : dependency ∈ dependencies) : dependency.count ≤ greatestCount dependencies := by
  cases dependencies with
  | nil => cases member
  | cons first rest =>
    obtain ⟨started, others⟩ := le_foldl_max rest first.count
    rw [List.mem_cons] at member
    rcases member with same | inRest
    · rw [same]
      exact started
    · exact others dependency inRest

theorem foldl_max_le {bound : Int} (rest : List Dependency) {start : Int} (started : start ≤ bound)
    (others : ∀ dependency ∈ rest, dependency.count ≤ bound) :
    rest.foldl (fun greatest dependency => max greatest dependency.count) start ≤ bound := by
  induction rest generalizing start with
  | nil => exact started
  | cons first rest inductionHypothesis =>
    exact inductionHypothesis (Int.max_le.mpr ⟨started, others first List.mem_cons_self⟩)
      fun dependency member => others dependency (List.mem_cons_of_mem _ member)

theorem greatestCount_eq {dependencies : List Dependency} {most : Dependency} (member : most ∈ dependencies)
    (atMost : ∀ dependency ∈ dependencies, dependency.count ≤ most.count) :
    greatestCount dependencies = most.count := by
  apply Int.le_antisymm
  · cases dependencies with
    | nil => cases member
    | cons first rest =>
      exact foldl_max_le rest (atMost first List.mem_cons_self) fun dependency inRest =>
        atMost dependency (List.mem_cons_of_mem _ inRest)
  · exact count_le_greatestCount member

/-- Dependencies have a usage chart. -/
theorem usageChartText_ok {dependencies : List Dependency}
    (counted : ∀ dependency ∈ dependencies, 0 ≤ dependency.count) :
    ∃ text, usageChartText dependencies = .ok text := by
  have lines : ∃ lines, usageChart dependencies = .ok lines := by
    unfold usageChart
    split
    · exact ⟨_, rfl⟩
    · apply mapM_ok
      intro dependency member
      rw [usageLine, share_filled (counted dependency member) (count_le_greatestCount member)]
      exact ⟨_, rfl⟩
  obtain ⟨lines, charted⟩ := lines
  unfold usageChartText
  rw [charted]
  exact ⟨_, rfl⟩

/-! ## Exact charts -/

/-- The line of a dependency in a usage chart with the cells of its exact share. -/
def exactLine (dependencies : List Dependency) (greatest : Int) (dependency : Dependency) : List Char :=
  Text.padRight (Text.widest (dependencies.map fun dependency => dependency.name.toList))
      dependency.name.toList ++ ' ' :: '|' :: cellRun (exactCells dependency.count greatest) '─' ++
    Text.intText dependency.count

theorem usageLine_exact {dependencies : List Dependency} {dependency : Dependency}
    (atMost : dependency.count ≤ greatest) (positive : 0 < greatest) (small : greatest < 2 ^ 40)
    (drawable : dependency.count < 0 → Drawable dependency.count greatest) :
    usageLine (Text.widest (dependencies.map fun dependency => dependency.name.toList)) greatest dependency =
      .ok (exactLine dependencies greatest dependency) := by
  unfold usageLine exactLine
  rcases lt_or_ge dependency.count 0 with negative | nonneg
  · obtain ⟨filled, shared, none, noneExact⟩ := share_of_neg negative positive (drawable negative)
    rw [shared, ok_bind, cellRun_of_nonpos none, cellRun_of_nonpos noneExact]
    rfl
  · rw [share_exact nonneg atMost positive small]
    rfl

theorem usageLine_overflow {width : Nat} {dependency : Dependency} (positive : 0 < greatest)
    (overflow : ¬Drawable dependency.count greatest) :
    ∃ error, usageLine width greatest dependency = .error error := by
  obtain ⟨error, failed, -⟩ := share_overflow positive overflow
  exact ⟨error, by rw [usageLine, failed]; rfl⟩

/-- A line has no other error than an overflow. -/
theorem isOverflow_of_usageLine {width : Nat} {dependency : Dependency} {error : NumberError}
    (atMost : dependency.count ≤ greatest) (positive : 0 < greatest)
    (failed : usageLine width greatest dependency = .error error) : IsOverflow error := by
  unfold usageLine at failed
  by_cases drawable : Drawable dependency.count greatest
  · rw [share_eq atMost positive drawable] at failed
    cases failed
  · obtain ⟨other, shared, isOverflow⟩ := share_overflow positive drawable
    rw [shared] at failed
    cases failed
    exact isOverflow

theorem usageChart_eq {dependencies : List Dependency} {most : Dependency} (member : most ∈ dependencies)
    (atMost : ∀ dependency ∈ dependencies, dependency.count ≤ most.count) :
    usageChart dependencies = dependencies.mapM
      (usageLine (Text.widest (dependencies.map fun dependency => dependency.name.toList)) most.count) := by
  have some : dependencies.isEmpty = false := by
    rw [List.isEmpty_eq_false_iff]
    exact List.ne_nil_of_mem member
  rw [usageChart, some, greatestCount_eq member atMost]
  rfl

/-- Up to a greatest count of forty bits, the bar of a ranking has the cells of the exact share, and so have
all bars of a usage chart whose greatest count it is.  There is no such chart if and only if a count is so far
below zero that its share overflows. -/
theorem bars_exact (positive : 0 < greatest) (small : greatest < 2 ^ 40) :
    (∀ count, 0 ≤ count → count ≤ greatest → rankingBar count greatest barCells =
      .ok (cellRun (exactCells count greatest) '█' ++ cellRun (barCells - exactCells count greatest) '░')) ∧
    ∀ dependencies : List Dependency, (∃ dependency ∈ dependencies, dependency.count = greatest) →
      (∀ dependency ∈ dependencies, dependency.count ≤ greatest) →
      ((∀ dependency ∈ dependencies, dependency.count < 0 → Drawable dependency.count greatest) →
        usageChartText dependencies =
          .ok ("\n".intercalate ((dependencies.map (exactLine dependencies greatest)).map String.ofList))) ∧
      ((∃ dependency ∈ dependencies, ¬Drawable dependency.count greatest) →
        ∃ error, IsOverflow error ∧ usageChartText dependencies = .error error) := by
  constructor
  · intro count nonneg atMost
    have low := exactCells_nonneg nonneg positive
    have high := exactCells_le atMost positive
    rw [rankingBar, share_exact nonneg atMost positive small, ok_bind, min_eq_left high, max_eq_right low]
    rfl
  rintro dependencies ⟨most, member, rfl⟩ atMost
  rw [usageChartText, usageChart_eq member atMost]
  constructor
  · -- Every line can be drawn, so the chart is the list of them.
    intro drawable
    rw [mapM_eq_ok_map fun dependency inList =>
      usageLine_exact (atMost dependency inList) positive small (drawable dependency inList)]
    rfl
  · -- One line that cannot be drawn is enough, though it need not be the first one.
    rintro ⟨dependency, inList, overflow⟩
    cases charted : dependencies.mapM
        (usageLine (Text.widest (dependencies.map fun dependency => dependency.name.toList)) most.count) with
    | error error =>
      obtain ⟨first, isFirst, failed⟩ := exists_of_mapM_eq_error charted
      exact ⟨error, isOverflow_of_usageLine (atMost first isFirst) positive failed, rfl⟩
    | ok lines =>
      obtain ⟨error, failed⟩ := usageLine_overflow positive overflow
      obtain ⟨line, -, drawn⟩ := exists_mem_of_forall₂ (mapM_eq_ok_iff.mp charted) dependency inList
      rw [failed] at drawn
      cases drawn

/-- Dependencies of which two end in the middle of a cell, and one is below zero. -/
def sampleDependencies : List Dependency :=
  [⟨"abc", "1", 60⟩, ⟨"a", "1", 59⟩, ⟨"b", "1", 1⟩, ⟨"c", "1", -60⟩]

theorem bars_exact_middle :
    rankingBar 59 60 barCells = .ok (List.replicate 30 '█') ∧
      usageChartText sampleDependencies = .ok
        "abc |──────────────────────────────60\na   |──────────────────────────────59\nb   |─1\nc   |-60" := by
  obtain ⟨bars, charts⟩ := @bars_exact 60 (by decide) (by decide)
  have bar := bars 59 (by decide) (by decide)
  have drawable : Drawable (-60) 60 := by
    have cells : multiple 30 (-60) 60 = -30 := by decide +kernel
    have wide := natCast_lt_overflowBound (by norm_num : 30 < 2 ^ 53)
    rw [Drawable, cells, abs_neg, abs_of_nonneg (by norm_num)]
    exact_mod_cast wide
  have chart := (charts sampleDependencies ⟨_, List.mem_cons_self, rfl⟩ (by decide)).1 (by
    intro dependency member negative
    simp only [sampleDependencies, List.mem_cons, List.not_mem_nil, or_false] at member
    rcases member with rfl | rfl | rfl | rfl
    · exact absurd negative (by decide)
    · exact absurd negative (by decide)
    · exact absurd negative (by decide)
    · exact drawable)
  exact ⟨bar.trans (by decide +kernel), chart.trans (by decide +kernel)⟩

/-- A dependency that is counted once next to one with a count of minus a one and four hundred zeros. -/
def overflowingDependencies : List Dependency :=
  [⟨"a", "1", 1⟩, ⟨"b", "1", -10 ^ 400⟩]

theorem usageChart_far_below_zero :
    (∃ dependency ∈ overflowingDependencies, dependency.count = 1) ∧
      (∀ dependency ∈ overflowingDependencies, dependency.count ≤ 1) ∧
      usageChartText overflowingDependencies = .error .quotientTooLarge :=
  ⟨⟨_, List.mem_cons_self, rfl⟩, by decide +kernel, by decide +kernel⟩

end ProjectGauge.Report
