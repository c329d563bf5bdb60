import ProjectGauge.Proofs.Files.Change
import ProjectGauge.Proofs.Result
import Mathlib.Logic.Basic

/-!
# Ways through a tree

A walk to an existing entry is a way: name by name it stays, goes up, goes down, or goes on behind a link.
What holds of a walk is shown along its way, without a look at how the walk is computed.

* `Way` is the way of a walk to an existing entry, and `walkFrom_existing_iff` says so.
* `Way.of_extends`: a way is a way in every tree with more entries.
* `Way.above`: an entry is reached through the directory that its path stands in.
* `Way.append`: a walk goes along a way first and then on from its end.
* `Way.reaches`: a walk that may end otherwise ends with an entry, too.
-/

namespace ProjectGauge.Files

/-- A name that stands for an entry of a directory and is not too long. -/
structure IsProper (name : Name) : Prop where
  notSelf : name ≠ self
  notParent : name ≠ parent
  fits : Text.Utf8.byteLength name ≤ nameLimit

namespace System

/-- The way along names from a directory to an entry, with a number of links that may still be
followed. -/
inductive Way (system : System) : Nat → List Name → List Name → List Name → Prop where
  | arrived {links : Nat} {place : List Name} : Way system links place [] place
  | stay {links : Nat} {start rest place : List Name} (inside : system.HasDirectory start)
    (behind : Way system links start rest place) : Way system links start (self :: rest) place
  | up {links : Nat} {start rest place : List Name} (inside : system.HasDirectory start)
    (behind : Way system links start.dropLast rest place) : Way system links start (parent :: rest) place
  | down {links : Nat} {start rest place : List Name} {name : Name} {node : Node}
    (inside : system.HasDirectory start) (proper : IsProper name)
    (found : system.at? (start ++ [name]) = some node) (notLink : node.target? = none)
    (behind : Way system links (start ++ [name]) rest place) : Way system links start (name :: rest) place
  | link {links : Nat} {start rest place : List Name} {name : Name} {target : List Char}
    (inside : system.HasDirectory start) (proper : IsProper name)
    (found : system.at? (start ++ [name]) = some (.link target))
    (behind : Way system links (Files.startOf start target) (targetNames target ++ rest) place) :
    Way system (links + 1) start (name :: rest) place

variable {system : System} {ending : Ending} {links : Nat} {start rest place : List Name} {name : Name}

/-! ## Walks name by name -/

section Steps

variable {follow : List Name → List Name → Except Cause (List Name)}

theorem step_stay (inside : system.HasDirectory start) :
    system.step ending follow start (self :: rest) = system.step ending follow start rest := by
  rw [step, hasDirectory_iff.mp inside, if_neg (by decide), if_pos rfl]

theorem step_up (inside : system.HasDirectory start) :
    system.step ending follow start (parent :: rest) =
      system.step ending follow start.dropLast rest := by
  rw [step, hasDirectory_iff.mp inside, if_neg (by decide), if_neg (by decide), if_pos rfl]

theorem step_proper (inside : system.HasDirectory start) (proper : IsProper name) :
    system.step ending follow start (name :: rest) =
      match system.at? (start ++ [name]) with
      | none => if rest.isEmpty && ending.mayBeNew then .ok (start ++ [name]) else .error .notFound
      | some (.link target) =>
        if rest.isEmpty && !ending.followsLink then .ok (start ++ [name])
        else follow (Files.startOf start target) (targetNames target ++ rest)
      | some _ => system.step ending follow (start ++ [name]) rest := by
  rw [step, hasDirectory_iff.mp inside]
  exact (if_neg (by decide)).trans ((if_neg proper.notSelf).trans ((if_neg proper.notParent).trans
    (if_neg (Nat.not_lt.mpr proper.fits))))

theorem way_of_step (behind : ∀ start names place, follow start names = .ok place →
      ∃ fewer, links = fewer + 1 ∧ system.Way fewer start names place) {names : List Name}
    (walked : system.step .existing follow start names = .ok place) :
    system.Way links start names place := by
  -- A step without a link goes on with the names behind; one along a link is a walk of its own, with one
  -- link fewer, of which the hypothesis knows the way.
  induction names generalizing start with
  | nil =>
    cases walked
    exact .arrived
  | cons name rest inductionHypothesis =>
    by_cases inside : system.HasDirectory start
    · by_cases isSelf : name = self
      · subst isSelf
        rw [step_stay inside] at walked
        exact .stay inside (inductionHypothesis walked)
      by_cases isParent : name = parent
      · subst isParent
        rw [step_up inside] at walked
        exact .up inside (inductionHypothesis walked)
      by_cases fits : Text.Utf8.byteLength name ≤ nameLimit
      · have proper : IsProper name := ⟨isSelf, isParent, fits⟩
        rw [step_proper inside proper] at walked
        split at walked
        · simp [Ending.existing] at walked
        · rename_i target found
          simp only [Ending.existing, Bool.not_true, Bool.and_false, Bool.false_eq_true, if_false]
            at walked
          obtain ⟨fewer, rfl, way⟩ := behind _ _ _ walked
          exact .link inside proper found way
        · rename_i node notLink found
          refine .down inside proper found ?_ (inductionHypothesis walked)
          cases node with
          | link target => exact absurd rfl (notLink target)
          | file content => rfl
          | directory children => rfl
      · -- A name that is too long is refused.
        rw [step, hasDirectory_iff.mp inside, if_neg (by decide), if_neg isSelf, if_neg isParent,
          if_pos (Nat.lt_of_not_le fits)] at walked
        cases walked
    · -- Only in a directory does a walk go on.
      rw [hasDirectory_iff, Bool.not_eq_true] at inside
      rw [step, inside, if_pos (by decide)] at walked
      cases walked

end Steps

theorem walkFrom_arrived : system.walkFrom ending links place [] = .ok place := by
  cases links <;> rfl

theorem walkFrom_stay (inside : system.HasDirectory start) :
    system.walkFrom ending links start (self :: rest) = system.walkFrom ending links start rest := by
  cases links <;> exact step_stay inside

theorem walkFrom_up (inside : system.HasDirectory start) :
    system.walkFrom ending links start (parent :: rest) =
      system.walkFrom ending links start.dropLast rest := by
  cases links <;> exact step_up inside

theorem walkFrom_down {node : Node} (inside : system.HasDirectory start) (proper : IsProper name)
    (found : system.at? (start ++ [name]) = some node) (notLink : node.target? = none) :
    system.walkFrom ending links start (name :: rest) =
      system.walkFrom ending links (start ++ [name]) rest := by
  cases node with
  | link target => cases notLink
  | _ =>
    cases links
    all_goals
      refine (step_proper inside proper).trans ?_
      rw [found]
      rfl

theorem walkFrom_link {target : List Char} (inside : system.HasDirectory start) (proper : IsProper name)
    (found : system.at? (start ++ [name]) = some (.link target))
    (goesOn : ending.followsLink = true ∨ rest ≠ []) :
    system.walkFrom ending (links + 1) start (name :: rest) =
      system.walkFrom ending links (Files.startOf start target) (targetNames target ++ rest) := by
  refine (step_proper inside proper).trans ?_
  rw [found]
  refine if_neg ?_
  rcases goesOn with followsLink | more
  · simp [followsLink]
  · simp [more]

/-- A link at the end of a walk is its end where it is not followed. -/
theorem walkFrom_link_last {target : List Char} (inside : system.HasDirectory start)
    (proper : IsProper name) (found : system.at? (start ++ [name]) = some (.link target))
    (isEnd : ending.followsLink = false) :
    system.walkFrom ending links start [name] = .ok (start ++ [name]) := by
  cases links
  all_goals
    refine (step_proper inside proper).trans ?_
    rw [found]
    exact if_pos (by simp [isEnd])

/-- A walk ends in front of a missing entry, or with it where it may be a new one. -/
theorem walkFrom_missing (inside : system.HasDirectory start) (proper : IsProper name)
    (missing : system.at? (start ++ [name]) = none) :
    system.walkFrom ending links start (name :: rest) =
      if rest.isEmpty && ending.mayBeNew then .ok (start ++ [name]) else .error .notFound := by
  cases links
  all_goals
    refine (step_proper inside proper).trans ?_
    rw [missing]

theorem way_of_walkFrom {names : List Name}
    (walked : system.walkFrom .existing links start names = .ok place) :
    system.Way links start names place := by
  -- The induction is on the links that may still be followed: no other step needs one.
  induction links generalizing start names place with
  | zero => exact way_of_step (fun _ _ _ impossible => by cases impossible) walked
  | succ links inductionHypothesis =>
    exact way_of_step (fun _ _ _ walked => ⟨links, rfl, inductionHypothesis walked⟩) walked

/-! ## Along a way -/

namespace Way

/-- A walk goes along a way, and from its end on. -/
theorem append {result : Except Cause (List Name)} {names : List Name}
    (way : system.Way links start names place)
    (more : rest ≠ []) (behind : ∀ links, system.walkFrom ending links place rest = result) :
    system.walkFrom ending links start (names ++ rest) = result := by
  induction way with
  | arrived => exact behind _
  | stay inside _ inductionHypothesis => exact (walkFrom_stay inside).trans (inductionHypothesis behind)
  | up inside _ inductionHypothesis => exact (walkFrom_up inside).trans (inductionHypothesis behind)
  | down inside proper found notLink _ inductionHypothesis =>
    exact (walkFrom_down inside proper found notLink).trans (inductionHypothesis behind)
  | link inside proper found _ inductionHypothesis =>
    -- The names of the target stand in front of those that are left, and of the ones added here.
    have further := inductionHypothesis behind
    rw [List.append_assoc] at further
    exact (walkFrom_link inside proper found (.inr (by simp [more]))).trans further

/-- A walk that follows links goes along a way to its end. -/
theorem walkFrom_eq {names : List Name} (way : system.Way links start names place)
    (followsLink : ending.followsLink = true) :
    system.walkFrom ending links start names = .ok place := by
  induction way with
  | arrived => exact walkFrom_arrived
  | stay inside _ inductionHypothesis => exact (walkFrom_stay inside).trans inductionHypothesis
  | up inside _ inductionHypothesis => exact (walkFrom_up inside).trans inductionHypothesis
  | down inside proper found notLink _ inductionHypothesis =>
    exact (walkFrom_down inside proper found notLink).trans inductionHypothesis
  | link inside proper found _ inductionHypothesis =>
    exact (walkFrom_link inside proper found (.inl followsLink)).trans inductionHypothesis

/-- Where an entry is reached, a walk of any kind reaches one. -/
theorem reaches {names : List Name} (ending : Ending) (way : system.Way links start names place)
    (there : (system.at? place).isSome) :
    ∃ reached, system.walkFrom ending links start names = .ok reached ∧
      (system.at? reached).isSome := by
  induction way with
  | arrived => exact ⟨_, walkFrom_arrived, there⟩
  | stay inside _ inductionHypothesis =>
    obtain ⟨reached, walked, isThere⟩ := inductionHypothesis there
    exact ⟨reached, (walkFrom_stay inside).trans walked, isThere⟩
  | up inside _ inductionHypothesis =>
    obtain ⟨reached, walked, isThere⟩ := inductionHypothesis there
    exact ⟨reached, (walkFrom_up inside).trans walked, isThere⟩
  | down inside proper found notLink _ inductionHypothesis =>
    obtain ⟨reached, walked, isThere⟩ := inductionHypothesis there
    exact ⟨reached, (walkFrom_down inside proper found notLink).trans walked, isThere⟩
  | @link links start rest place name target inside proper found _ inductionHypothesis =>
    obtain ⟨reached, walked, isThere⟩ := inductionHypothesis there
    by_cases goesOn : ending.followsLink = true ∨ rest ≠ []
    · exact ⟨reached, (walkFrom_link inside proper found goesOn).trans walked, isThere⟩
    · -- A walk that does not follow the last link ends with the link itself.
      rw [not_or, not_not, Bool.not_eq_true] at goesOn
      obtain ⟨isEnd, rfl⟩ := goesOn
      exact ⟨_, walkFrom_link_last inside proper found isEnd, by rw [found]; rfl⟩

/-- A way is a way in every tree with more entries. -/
theorem of_extends {other : System} {names : List Name} (more : system.Extends other)
    (way : system.Way links start names place) : other.Way links start names place := by
  induction way with
  | arrived => exact .arrived
  | stay inside _ inductionHypothesis => exact .stay (inside.of_extends more) inductionHypothesis
  | up inside _ inductionHypothesis => exact .up (inside.of_extends more) inductionHypothesis
  | down inside proper found notLink _ inductionHypothesis =>
    obtain ⟨new, isThere, -, sameTarget⟩ := more.kept _ _ found
    exact .down (inside.of_extends more) proper isThere (sameTarget ▸ notLink) inductionHypothesis
  | link inside proper found _ inductionHypothesis =>
    -- An entry with the target of a link is a link.
    obtain ⟨new, isThere, isDirectory, sameTarget⟩ := more.kept _ _ found
    cases new with
    | link target =>
      cases sameTarget
      exact .link (inside.of_extends more) proper isThere inductionHypothesis
    | file content => cases sameTarget
    | directory children => cases sameTarget

/-- The last name of a way is looked up in a directory, to which the names in front of it lead. -/
theorem above {names : List Name} {last : Name} (way : system.Way links start (names ++ [last]) place) :
    ∃ directory, system.Way links start names directory ∧ system.HasDirectory directory := by
  -- In each case the last name is the one looked up here, or it is among the names behind.
  generalize whole : names ++ [last] = all at way
  induction way generalizing names with
  | arrived => simp at whole
  | stay inside _ inductionHypothesis =>
    cases names with
    | nil => exact ⟨_, .arrived, inside⟩
    | cons name names =>
      cases whole
      obtain ⟨directory, front, isDirectory⟩ := inductionHypothesis rfl
      exact ⟨directory, .stay inside front, isDirectory⟩
  | up inside _ inductionHypothesis =>
    cases names with
    | nil => exact ⟨_, .arrived, inside⟩
    | cons name names =>
      cases whole
      obtain ⟨directory, front, isDirectory⟩ := inductionHypothesis rfl
      exact ⟨directory, .up inside front, isDirectory⟩
  | down inside proper found notLink _ inductionHypothesis =>
    cases names with
    | nil => exact ⟨_, .arrived, inside⟩
    | cons name names =>
      cases whole
      obtain ⟨directory, front, isDirectory⟩ := inductionHypothesis rfl
      exact ⟨directory, .down inside proper found notLink front, isDirectory⟩
  | link inside proper found _ inductionHypothesis =>
    cases names with
    | nil => exact ⟨_, .arrived, inside⟩
    | cons name names =>
      cases whole
      obtain ⟨directory, front, isDirectory⟩ := inductionHypothesis (List.append_assoc _ _ _)
      exact ⟨directory, .link inside proper found front, isDirectory⟩

end Way

theorem walkFrom_existing_iff {names : List Name} :
    system.walkFrom .existing links start names = .ok place ↔ system.Way links start names place :=
  ⟨way_of_walkFrom, fun way => way.walkFrom_eq rfl⟩

end System
end ProjectGauge.Files
