import ProjectGauge.Score.Package
import ProjectGauge.Proofs.Json.Members
import ProjectGauge.Proofs.Number.Measure
import Mathlib.Data.List.Dedup

/-!
# Sums package by package

Each signal adds points to the sum of one package.  The sums of all packages are computed side by side, but
the sum of a package depends on its own steps only, so that what holds of a score is shown along these.

* `exists_rows` gives a ranking as the sorted rows of all packages, each with the score that comes of its own
  steps (`scoreOf`); `rank_ok` says when there is one.
* `sumFor_holds` is the induction along the steps of a package.
-/

namespace ProjectGauge.PackageScore

open Binary64

/-! ## Additions -/

/-- Points that are added to the sum of a package. -/
abbrev Addition := String × Int

def usageAdditions (usage : String × Int) : List Addition :=
  [(usage.1, 2 * usage.2)]

def directAdditions (package : String) : List Addition :=
  [(package, directPoints)]

def importAdditions (entry : ImportEntry) : List Addition :=
  (entry.package, 5 * entry.usageCount) ::
    if entry.inEntryPoint then [(entry.package, entryPointPoints)] else []

/-- The additions of all signals, in the order in which they are made. -/
def additions (usages : List (String × Int)) (imports : ImportSignals) : List Addition :=
  usages.flatMap usageAdditions ++ imports.direct.flatMap directAdditions ++
    imports.entries.flatMap importAdditions

/-- The points that are added to the sum of a package. -/
def total (package : String) (additions : List Addition) : Int :=
  ((additions.filter fun addition => addition.1 = package).map Prod.snd).sum

/-- The same points without regard to their signs. -/
def weight (package : String) (additions : List Addition) : Nat :=
  ((additions.filter fun addition => addition.1 = package).map fun addition => addition.2.natAbs).sum

theorem total_append (package : String) (first second : List Addition) :
    total package (first ++ second) = total package first + total package second := by
  simp [total]

theorem weight_append (package : String) (first second : List Addition) :
    weight package (first ++ second) = weight package first + weight package second := by
  simp [weight]

theorem total_single (package name : String) (points : Int) :
    total package [(name, points)] = if name = package then points else 0 := by
  by_cases same : name = package <;> simp [total, same]

theorem weight_single (package name : String) (points : Int) :
    weight package [(name, points)] = if name = package then points.natAbs else 0 := by
  by_cases same : name = package <;> simp [weight, same]

theorem natAbs_total_le (package : String) (additions : List Addition) :
    (total package additions).natAbs ≤ weight package additions := by
  induction additions with
  | nil => exact Nat.le_refl 0
  | cons addition rest inductionHypothesis =>
    obtain ⟨name, points⟩ := addition
    rw [← List.singleton_append, total_append, weight_append, total_single, weight_single]
    split <;> omega

theorem weight_le_sum (package : String) (additions : List Addition) :
    weight package additions ≤ (additions.map fun addition => addition.2.natAbs).sum :=
  (List.filter_sublist.map _).sum_le_sum fun _ _ => Nat.zero_le _

/-! ## Steps -/

/-- An addition as it is computed: of whole points, or of points that are a quotient without a remainder. -/
inductive Step where
  | whole (package : String) (points : Int)
  | quotient (package : String) (points divisor : Int) (positive : 0 < divisor)

namespace Step

def addition : Step → Addition
  | .whole package points => (package, points)
  | .quotient package points _ _ => (package, points)

def package (step : Step) : String :=
  step.addition.1

def points : Step → Except NumberError Measure
  | .whole _ points => .ok (.whole points)
  | .quotient _ points divisor _ => do return .real (← ofQuotient (points * divisor) divisor)

def addTo (sums : Sums) (step : Step) : Except NumberError Sums := do
  addPoints sums step.package (← step.points)

/-- The points of a step, unless their number is unimaginable. -/
theorem points_ok (step : Step) (small : 2 * |(step.addition.2 : Rat)| < overflowBound) :
    ∃ points, step.points = .ok points ∧ points.Represents step.addition.2 := by
  cases step with
  | whole package points => exact ⟨_, rfl, rfl⟩
  | quotient package points divisor positive =>
    have exactly : ((points * divisor : Int) : Rat) / divisor = points := by
      rw [Int.cast_mul, mul_div_assoc, div_self (by exact_mod_cast positive.ne'), mul_one]
    obtain ⟨x, computed, hasValue⟩ :=
      ofQuotient_hasValue (a := points * divisor) positive (exactly ▸ small)
    rw [exactly] at hasValue
    refine ⟨.real x, ?_, hasValue⟩
    rw [Step.points, computed]
    rfl

end Step

def usageSteps (usage : String × Int) : List Step :=
  [.quotient usage.1 (2 * usage.2) 10 (by decide)]

def directSteps (package : String) : List Step :=
  [.whole package directPoints]

def importSteps (entry : ImportEntry) : List Step :=
  .quotient entry.package (5 * entry.usageCount) 5 (by decide) ::
    if entry.inEntryPoint then [.whole entry.package entryPointPoints] else []

/-- The steps of all signals, in the order in which they are made. -/
def steps (usages : List (String × Int)) (imports : ImportSignals) : List Step :=
  usages.flatMap usageSteps ++ imports.direct.flatMap directSteps ++ imports.entries.flatMap importSteps

theorem additions_eq (usages : List (String × Int)) (imports : ImportSignals) :
    additions usages imports = (steps usages imports).map Step.addition := by
  have ofEntry : importAdditions = fun entry => (importSteps entry).map Step.addition := by
    funext entry
    unfold importAdditions importSteps
    split <;> rfl
  rw [additions, ofEntry]
  simp only [steps, List.map_append, List.map_flatMap]
  rfl

theorem foldlM_flatMap {add : Sums → α → Except NumberError Sums} {parts : α → List Step}
    (isParts : ∀ sums item, add sums item = (parts item).foldlM Step.addTo sums) (items : List α)
    (sums : Sums) : items.foldlM add sums = (items.flatMap parts).foldlM Step.addTo sums := by
  induction items generalizing sums with
  | nil => rfl
  | cons item rest inductionHypothesis =>
    rw [List.foldlM_cons, List.flatMap_cons, List.foldlM_append, isParts]
    congr 1
    funext next
    exact inductionHypothesis next

theorem addUsage_eq (sums : Sums) (usage : String × Int) :
    addUsage sums usage = (usageSteps usage).foldlM Step.addTo sums := by
  have tenfold : usage.2 * usagePoints = 2 * usage.2 * 10 := by unfold usagePoints; ring
  simp [addUsage, usageSteps, Step.addTo, Step.points, Step.package, Step.addition, tenfold]

theorem addImports_eq (sums : Sums) (entry : ImportEntry) :
    addImports sums entry = (importSteps entry).foldlM Step.addTo sums := by
  have fivefold : entry.usageCount * importPoints = 5 * entry.usageCount * 5 := by
    unfold importPoints; ring
  unfold addImports importSteps
  cases entry.inEntryPoint <;>
    simp [Step.addTo, Step.points, Step.package, Step.addition, fivefold]

theorem sums_eq (usages : List (String × Int)) (imports : ImportSignals) :
    sums usages imports = (steps usages imports).foldlM Step.addTo [] := by
  have addDirect_eq (sums : Sums) (package : String) :
      addDirect sums package = (directSteps package).foldlM Step.addTo sums := by
    simp [addDirect, directSteps, Step.addTo, Step.points, Step.package, Step.addition]
  simp only [sums, steps, List.foldlM_append, foldlM_flatMap addUsage_eq, foldlM_flatMap addDirect_eq,
    foldlM_flatMap addImports_eq, bind_assoc]

/-! ## The sum of one package -/

/-- The sum of a package, to which only its own steps add. -/
def sumFor (package : String) (steps : List Step) : Except NumberError Measure :=
  (steps.filter fun step => step.package = package).foldlM (fun sum step => do sum.add (← step.points)) .zero

theorem sumFor_concat (package : String) (steps : List Step) (step : Step) :
    sumFor package (steps ++ [step]) =
      if step.package = package then do (← sumFor package steps).add (← step.points)
      else sumFor package steps := by
  unfold sumFor
  by_cases here : step.package = package <;> simp [List.filter_append, here]

/-- Sums after a number of steps: the packages in the order in which they were first named, each with its
own sum. -/
structure Gathered (steps : List Step) (sums : Sums) : Prop where
  names : sums.map Prod.fst = (steps.map Step.package).eraseDups
  own : ∀ package, sumFor package steps = .ok ((Json.lookup package sums).getD .zero)

theorem Gathered.addTo {steps : List Step} {sums next : Sums} {step : Step}
    (gathered : Gathered steps sums) (added : step.addTo sums = .ok next) :
    Gathered (steps ++ [step]) next := by
  obtain ⟨points, computed, added⟩ := bind_eq_ok.mp added
  obtain ⟨sum, summed, added⟩ := bind_eq_ok.mp added
  cases added
  exact {
    names := by
      rw [Json.names_put, gathered.names, List.map_append, List.map_singleton, Json.eraseDups_concat]
    own := by
      intro package
      rw [sumFor_concat, Json.lookup_put]
      split
      · rename_i here
        subst here
        rw [gathered.own, ok_bind, computed, ok_bind, summed]
        rfl
      · exact gathered.own package }

theorem gathered_of_foldlM {steps : List Step} {totals : Sums}
    (folded : steps.foldlM Step.addTo [] = .ok totals) : Gathered steps totals := by
  induction steps using List.reverseRecOn generalizing totals with
  | nil =>
    cases folded
    exact ⟨rfl, fun _ => rfl⟩
  | append_singleton steps step inductionHypothesis =>
    rw [List.foldlM_append] at folded
    obtain ⟨sums, before, last⟩ := bind_eq_ok.mp folded
    rw [List.foldlM_cons] at last
    obtain ⟨next, added, same⟩ := bind_eq_ok.mp last
    cases same
    exact (inductionHypothesis before).addTo added

/-- No step fails if the sum of no package does. -/
theorem foldlM_ok {steps : List Step} (each : ∀ package, ∃ sum, sumFor package steps = .ok sum) :
    ∃ totals, steps.foldlM Step.addTo [] = .ok totals := by
  induction steps using List.reverseRecOn with
  | nil => exact ⟨[], rfl⟩
  | append_singleton steps step inductionHypothesis =>
    have before : ∀ package, ∃ sum, sumFor package steps = .ok sum := by
      intro package
      obtain ⟨sum, summed⟩ := each package
      rw [sumFor_concat] at summed
      split at summed
      · obtain ⟨first, firstSummed, -⟩ := bind_eq_ok.mp summed
        exact ⟨first, firstSummed⟩
      · exact ⟨sum, summed⟩
    obtain ⟨sums, folded⟩ := inductionHypothesis before
    obtain ⟨sum, summed⟩ := each step.package
    rw [sumFor_concat, if_pos rfl, (gathered_of_foldlM folded).own, ok_bind] at summed
    obtain ⟨points, computed, added⟩ := bind_eq_ok.mp summed
    refine ⟨Json.put step.package sum sums, ?_⟩
    rw [List.foldlM_append, folded, ok_bind, List.foldlM_cons, Step.addTo, computed, ok_bind, addPoints,
      added]
    rfl

/-- What holds of zero and is kept by the steps of a package holds of its sum, whatever becomes of the
others. -/
theorem sumFor_holds (holds : Nat → Int → Measure → Prop) {limit : Nat} (start : holds 0 0 .zero)
    (keeps : ∀ before sofar sum (step : Step), holds before sofar sum →
      before + step.addition.2.natAbs < limit → ∃ points next, step.points = .ok points ∧
        sum.add points = .ok next ∧ holds (before + step.addition.2.natAbs) (sofar + step.addition.2) next)
    {steps : List Step} {package : String} (fits : weight package (steps.map Step.addition) < limit) :
    ∃ sum, sumFor package steps = .ok sum ∧
      holds (weight package (steps.map Step.addition)) (total package (steps.map Step.addition)) sum := by
  induction steps using List.reverseRecOn with
  | nil => exact ⟨_, rfl, start⟩
  | append_singleton steps step inductionHypothesis =>
    rw [List.map_append, List.map_singleton] at fits ⊢
    have isAddition : step.addition = (step.package, step.addition.2) := rfl
    rw [isAddition, weight_append, weight_single] at fits
    rw [sumFor_concat, isAddition, weight_append, weight_single, total_append, total_single]
    obtain ⟨sum, summed, kept⟩ := inductionHypothesis (by omega)
    split
    · rename_i here
      rw [if_pos here] at fits
      obtain ⟨points, next, computed, added, nextKept⟩ := keeps _ _ _ step kept fits
      exact ⟨next, by rw [summed, ok_bind, computed, ok_bind, added], nextKept⟩
    · rw [Int.add_zero]
      exact ⟨sum, summed, kept⟩

/-! ## Rows -/

/-- The score of a package: its own sum, rounded. -/
def scoreOf (usages : List (String × Int)) (imports : ImportSignals) (package : String) :
    Except NumberError Int := do
  (← sumFor package (steps usages imports)).roundHalfUp

/-- The rows of all packages that a signal names, in the order in which they are first named. -/
def rows (score : String → Int) (usages : List (String × Int)) (imports : ImportSignals) :
    List PackageScore :=
  ((additions usages imports).map Prod.fst).eraseDups.map fun package =>
    ⟨package, score package, detailsOf usages imports package⟩

theorem packages_rows (score : String → Int) (usages : List (String × Int)) (imports : ImportSignals) :
    (rows score usages imports).map PackageScore.package =
      ((additions usages imports).map Prod.fst).eraseDups := by
  rw [rows, List.map_map]
  exact List.map_id _

theorem mem_packages_rows {score : String → Int} {usages : List (String × Int)} {imports : ImportSignals}
    {package : String} :
    package ∈ (rows score usages imports).map PackageScore.package ↔
      package ∈ usages.map Prod.fst ∨ package ∈ imports.direct ∨
        package ∈ imports.entries.map ImportEntry.package := by
  have ofEntry (entry : ImportEntry) :
      package ∈ (importAdditions entry).map Prod.fst ↔ entry.package = package := by
    unfold importAdditions
    split <;> simp [eq_comm]
  rw [packages_rows, List.mem_eraseDups]
  simp only [additions, List.map_append, List.mem_append, List.map_flatMap, List.mem_flatMap, ofEntry]
  simp [usageAdditions, directAdditions, or_assoc]

theorem gathered_of_sums {usages : List (String × Int)} {imports : ImportSignals} {totals : Sums}
    (summed : sums usages imports = .ok totals) : Gathered (steps usages imports) totals :=
  gathered_of_foldlM (sums_eq usages imports ▸ summed)

theorem Gathered.scoreOf_eq {usages : List (String × Int)} {imports : ImportSignals} {totals : Sums}
    (gathered : Gathered (steps usages imports) totals) {entry : String × Measure}
    (member : entry ∈ totals) : scoreOf usages imports entry.1 = entry.2.roundHalfUp := by
  have distinct : (totals.map Prod.fst).Nodup := gathered.names ▸ Json.nodup_eraseDups _
  rw [scoreOf, gathered.own, Json.lookup_of_mem distinct member]
  rfl

theorem Gathered.names_eq {usages : List (String × Int)} {imports : ImportSignals} {totals : Sums}
    (gathered : Gathered (steps usages imports) totals) :
    totals.map Prod.fst = ((additions usages imports).map Prod.fst).eraseDups := by
  rw [gathered.names, additions_eq, List.map_map]
  rfl

/-- A ranking has the rows of all packages, each with the score of its package. -/
theorem exists_rows {usages : List (String × Int)} {imports : ImportSignals} {scores : List PackageScore}
    (ranked : rank usages imports = .ok scores) :
    ∃ score : String → Int,
      (∀ package ∈ (additions usages imports).map Prod.fst,
        scoreOf usages imports package = .ok (score package)) ∧
      scores = (rows score usages imports).mergeSort fun a b => b.score ≤ a.score := by
  obtain ⟨totals, summed, ranked⟩ := bind_eq_ok.mp ranked
  obtain ⟨unsorted, computed, ranked⟩ := bind_eq_ok.mp ranked
  cases ranked
  have gathered := gathered_of_sums summed
  have rounded : ∀ entry ∈ totals, ∃ n, scoreOf usages imports entry.1 = .ok n := by
    intro entry member
    obtain ⟨row, -, isRow⟩ := exists_mem_of_forall₂ (mapM_eq_ok_iff.mp computed) entry member
    obtain ⟨n, isScore, -⟩ := bind_eq_ok.mp isRow
    exact ⟨n, (gathered.scoreOf_eq member).trans isScore⟩
  let score (package : String) : Int := ((scoreOf usages imports package).toOption).getD 0
  have isScore : ∀ entry ∈ totals, scoreOf usages imports entry.1 = .ok (score entry.1) := by
    intro entry member
    obtain ⟨n, isScore⟩ := rounded entry member
    simp [score, isScore, Except.toOption]
  have isRows : unsorted = rows score usages imports := by
    have each : ∀ entry ∈ totals, (do
        return (⟨entry.1, ← entry.2.roundHalfUp, detailsOf usages imports entry.1⟩ : PackageScore)) =
          Except.ok (ε := NumberError) ⟨entry.1, score entry.1, detailsOf usages imports entry.1⟩ := by
      intro entry member
      rw [← gathered.scoreOf_eq member, isScore entry member]
      rfl
    rw [rows, ← gathered.names_eq, List.map_map]
    exact Except.ok.inj (computed.symm.trans (mapM_eq_ok_map each))
  refine ⟨score, ?_, by rw [isRows]⟩
  intro package named
  rw [← List.mem_eraseDups, ← gathered.names_eq] at named
  obtain ⟨entry, isEntry, rfl⟩ := List.mem_map.mp named
  exact isScore entry isEntry

/-- A row has the score and the details of its package. -/
theorem row_of_rank {usages : List (String × Int)} {imports : ImportSignals} {scores : List PackageScore}
    (ranked : rank usages imports = .ok scores) {row : PackageScore} (member : row ∈ scores) :
    scoreOf usages imports row.package = .ok row.score ∧
      row.details = detailsOf usages imports row.package := by
  obtain ⟨score, isScore, rfl⟩ := exists_rows ranked
  rw [List.mem_mergeSort, rows, List.mem_map] at member
  obtain ⟨package, named, rfl⟩ := member
  exact ⟨isScore package (List.mem_eraseDups.mp named), rfl⟩

/-- Where every package has a score there is a ranking. -/
theorem rank_ok {usages : List (String × Int)} {imports : ImportSignals}
    (each : ∀ package, ∃ n, scoreOf usages imports package = .ok n) :
    ∃ scores, rank usages imports = .ok scores := by
  have summed : ∀ package, ∃ sum, sumFor package (steps usages imports) = .ok sum := by
    intro package
    obtain ⟨n, isScore⟩ := each package
    obtain ⟨sum, summed, -⟩ := bind_eq_ok.mp isScore
    exact ⟨sum, summed⟩
  obtain ⟨totals, folded⟩ := foldlM_ok summed
  have gathered := gathered_of_foldlM folded
  have rounded : ∀ entry ∈ totals, ∃ row, (do
      return (⟨entry.1, ← entry.2.roundHalfUp, detailsOf usages imports entry.1⟩ : PackageScore)) =
        Except.ok (ε := NumberError) row := by
    intro entry member
    obtain ⟨n, isScore⟩ := each entry.1
    rw [gathered.scoreOf_eq member] at isScore
    exact ⟨_, by rw [isScore, ok_bind]; rfl⟩
  obtain ⟨unsorted, computed⟩ := mapM_ok rounded
  refine ⟨unsorted.mergeSort fun a b => b.score ≤ a.score, ?_⟩
  rw [rank, sums_eq, folded, ok_bind, computed]
  rfl

end ProjectGauge.PackageScore
