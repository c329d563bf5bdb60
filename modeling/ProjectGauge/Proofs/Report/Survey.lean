import ProjectGauge.Report.Survey
import ProjectGauge.Proofs.Project.Survey
import ProjectGauge.Proofs.Report.Ranking

/-!
# Reports without a failure

A report is whole if each of its parts can be computed; its text is then the text of its parts one behind
the other.

* `surveyParts_whole`: the report of a survey is whole.
-/

namespace ProjectGauge.Report

open Console Files

/-- All parts of a report can be computed. -/
def Whole (parts : List Part) : Prop :=
  ∀ part ∈ parts, ∃ text, part = .ok text

/-- The text of the parts in front of the first failure. -/
def textOf (parts : List Part) : List Char :=
  (untilFailure parts).1

theorem Whole.append {first second : List Part} (firstWhole : Whole first) (secondWhole : Whole second) :
    Whole (first ++ second) := by
  intro part member
  rw [List.mem_append] at member
  rcases member with inFirst | inSecond
  · exact firstWhole part inFirst
  · exact secondWhole part inSecond

theorem Whole.flatMap {partsOf : α → List Part} {items : List α}
    (each : ∀ item ∈ items, Whole (partsOf item)) : Whole (items.flatMap partsOf) := by
  intro part member
  obtain ⟨item, isThere, inItem⟩ := List.mem_flatMap.mp member
  exact each item isThere part inItem

theorem untilFailure_of_whole {parts : List Part} (whole : Whole parts) :
    untilFailure parts = (textOf parts, none) := by
  induction parts with
  | nil => rfl
  | cons part rest inductionHypothesis =>
    obtain ⟨text, computed⟩ := whole part List.mem_cons_self
    have others := inductionHypothesis fun other member => whole other (List.mem_cons_of_mem _ member)
    subst computed
    unfold textOf untilFailure
    rw [others]

theorem textOf_cons (text : List Char) (rest : List Part) :
    textOf (.ok text :: rest) = text ++ textOf rest :=
  rfl

theorem textOf_append {first : List Part} (whole : Whole first) (second : List Part) :
    textOf (first ++ second) = textOf first ++ textOf second := by
  induction first with
  | nil => rfl
  | cons part rest inductionHypothesis =>
    obtain ⟨text, computed⟩ := whole part List.mem_cons_self
    have others := inductionHypothesis fun other member => whole other (List.mem_cons_of_mem _ member)
    subst computed
    rw [List.cons_append, textOf_cons, textOf_cons, others, List.append_assoc]

theorem textOf_flatMap {partsOf : α → List Part} {items : List α}
    (each : ∀ item ∈ items, Whole (partsOf item)) :
    textOf (items.flatMap partsOf) = items.flatMap fun item => textOf (partsOf item) := by
  induction items with
  | nil => rfl
  | cons item rest inductionHypothesis =>
    rw [List.flatMap_cons, List.flatMap_cons, textOf_append (each item List.mem_cons_self),
      inductionHypothesis fun other member => each other (List.mem_cons_of_mem _ member)]

/-! ## One survey -/

theorem dependencyParts_whole {dependencies : List Dependency}
    (counted : ∀ dependency ∈ dependencies, 0 ≤ dependency.count) :
    Whole (dependencyParts dependencies) := by
  intro part member
  unfold dependencyParts at member
  split at member
  · rw [List.mem_singleton] at member
    exact ⟨_, member⟩
  · obtain ⟨chart, drawn⟩ := usageChartText_ok counted
    rw [drawn] at member
    simp only [List.mem_cons, List.not_mem_nil, or_false] at member
    rcases member with same | same | same | same <;> exact ⟨_, same⟩

theorem importPart_computed (imports : Int) : ∃ text, importPart imports = .ok text := by
  unfold importPart
  split <;> exact ⟨_, rfl⟩

/-- The report of a survey can be computed, whatever the directory looks like. -/
theorem surveyParts_whole {system : System} (small : system.root.volume < volumeLimit) (top : Nat)
    (clock : Clock) (directory : String) :
    Whole (surveyParts top (Project.survey system clock directory).value) := by
  have counted := (Project.dependencies_used system (Path.parse directory.toList)).counted
  have dependencyWhole : Whole (dependencyParts
      (Project.dependencies system (Path.parse directory.toList)).value) :=
    dependencyParts_whole fun dependency member => Int.le_of_lt (counted dependency member).1
  -- Each part is a text as it stands, or one of the computations that cannot fail.
  intro part member
  unfold surveyParts at member
  simp only [List.mem_cons, List.mem_append, List.not_mem_nil, or_false] at member
  rcases member with ((same | inDependencies) | same | inScores) | same
  · exact ⟨_, same⟩
  · exact dependencyWhole part inDependencies
  · rw [same]
    exact importPart_computed _
  · unfold scoreParts at inScores
    split at inScores
    · cases inScores
    · rename_i scores scored
      obtain ⟨found, computed⟩ := Project.scoresIfAny_ok small directory _ scored
      rw [List.mem_singleton] at inScores
      rw [inScores, computed]
      exact ⟨_, rfl⟩
  · rw [same]
    exact ⟨_, rfl⟩

end ProjectGauge.Report
