import ProjectGauge.Proofs.Files.Canonical
import ProjectGauge.Proofs.Files.Readable

/-!
# Resolutions that come to a path that is too long

A resolution asks about each spot on its way.  The system does not answer where the path of the spot is too
long, and a link there is not followed.  For a path that leads to an entry nothing else can go wrong: the
links that the system follows have an end, and so does the resolution.

* `Overlong` says that a resolution comes to a path that is too long.
* `Way.route`: where the system walks to an entry, a resolution has a route or comes to such a path.
* `Leads.routed` and `Routed.staysShort`: a path that leads to an entry has a route to it just if no path is
  too long.
-/

namespace ProjectGauge.Files.System

/-- A resolution along names comes to a spot whose path is too long. -/
inductive Overlong (system : System) : Spot → List Name → Prop where
  | here {spot : Spot} {name : Name} {rest : List Name} (isStep : IsStep name)
    (long : pathLimit ≤ Text.Utf8.byteLength (spot.child name).text) : Overlong system spot (name :: rest)
  | stay {spot : Spot} {name : Name} {rest : List Name} (idle : isIdle name = true)
    (behind : Overlong system spot rest) : Overlong system spot (name :: rest)
  | up {spot : Spot} {rest : List Name} (behind : Overlong system spot.up rest) :
    Overlong system spot (parent :: rest)
  | down {spot : Spot} {name : Name} {rest : List Name} (isStep : IsStep name)
    (notLink : ∀ target, system.at? ((spot.child name).place system.here) ≠ some (.link target))
    (behind : Overlong system (spot.child name) rest) : Overlong system spot (name :: rest)
  | inside {spot : Spot} {name : Name} {rest : List Name} {target : List Char} (isStep : IsStep name)
    (found : system.at? ((spot.child name).place system.here) = some (.link target))
    (along : Overlong system (spot.startOf target) (splitSlashes target)) :
    Overlong system spot (name :: rest)
  | link {spot middle : Spot} {name : Name} {rest : List Name} {target : List Char} {links : Nat}
    (isStep : IsStep name)
    (found : system.at? ((spot.child name).place system.here) = some (.link target))
    (along : Route system (spot.startOf target) (splitSlashes target) middle links)
    (behind : Overlong system middle rest) : Overlong system spot (name :: rest)

variable {system : System} {spot last : Spot} {names walked rest place : List Name} {links : Nat}

/-- Along a route no path is too long. -/
theorem Route.not_overlong (route : system.Route spot names last links) : ¬ system.Overlong spot names := by
  intro overlong
  induction overlong generalizing last links with
  | here isStep long =>
    cases route with
    | stay idle => exact isStep.not_idle idle
    | up => exact isStep.notParent rfl
    | down _ short | link _ short => exact Nat.not_le.mpr short long
  | stay idle _ inductionHypothesis =>
    cases route with
    | stay _ behind => exact inductionHypothesis behind
    | up => cases idle
    | down isStep | link isStep => exact isStep.not_idle idle
  | up _ inductionHypothesis =>
    cases route with
    | stay idle => cases idle
    | up behind => exact inductionHypothesis behind
    | down isStep | link isStep => exact isStep.notParent rfl
  | down isStep notLink _ inductionHypothesis =>
    cases route with
    | stay idle => exact isStep.not_idle idle
    | up => exact isStep.notParent rfl
    | down _ _ _ behind => exact inductionHypothesis behind
    | link _ _ found => exact notLink _ found
  | inside isStep found _ inductionHypothesis =>
    cases route with
    | stay idle => exact isStep.not_idle idle
    | up => exact isStep.notParent rfl
    | down _ _ notLink => exact notLink _ found
    | link _ _ otherFound along =>
      rw [found] at otherFound
      cases otherFound
      exact inductionHypothesis along
  | link isStep found along _ inductionHypothesis =>
    cases route with
    | stay idle => exact isStep.not_idle idle
    | up => exact isStep.notParent rfl
    | down _ _ notLink => exact notLink _ found
    | link _ _ otherFound otherAlong behind =>
      rw [found] at otherFound
      cases otherFound
      cases along.unique otherAlong
      exact inductionHypothesis behind

/-- The name of an entry is one at which a resolution looks for an entry. -/
theorem isStep_of_found {start : List Name} {name : Name} {node : Node} (named : system.root.Named)
    (found : system.at? (start ++ [name]) = some node) : IsStep name := by
  have accepted := named.of_at? found name (by simp)
  exact ⟨by simp [isIdle, accepted.isName.some, accepted.isName.notSelf], accepted.isName.notParent,
    by simpa using accepted.noNull⟩

/-- Where the system walks to an entry along names, and then along others, a resolution along the names has
a route or comes to a path that is too long. -/
theorem Way.route (named : system.root.Named) (same : SameSteps walked names)
    (way : system.Way links (spot.place system.here) (walked ++ rest) place)
    (short : ¬ system.Overlong spot names) : ∃ last count, system.Route spot names last count := by
  -- Behind a link fewer links may be followed, and up to the next link there are fewer names.
  induction links using Nat.strongRecOn generalizing spot names walked rest with
  | ind links fewerLinks =>
    induction names generalizing spot walked with
    | nil => exact ⟨spot, 0, .arrived⟩
    | cons name names inductionHypothesis =>
      by_cases idle : isIdle name = true
      · rw [SameSteps, List.filter_cons_of_neg (by simp [idle])] at same
        obtain ⟨last, count, behind⟩ := inductionHypothesis same way fun long => short (.stay idle long)
        exact ⟨last, count, .stay idle behind⟩
      rw [SameSteps, List.filter_cons_of_pos (by simp [idle])] at same
      obtain ⟨others, othersSame, way⟩ := way.skip_to same
      cases way with
      | stay => exact absurd rfl idle
      | up _ behind =>
        obtain ⟨last, count, behind⟩ := inductionHypothesis othersSame
          (by rw [Spot.place_up]; exact behind) fun long => short (.up long)
        exact ⟨last, count, .up behind⟩
      | down _ _ found notLink behind =>
        have isStep := isStep_of_found named found
        rw [← Spot.place_child] at found behind
        have noTarget (target : List Char) :
            system.at? ((spot.child name).place system.here) ≠ some (.link target) := by
          rintro isLink
          rw [found] at isLink
          cases isLink
          cases notLink
        obtain ⟨last, count, behind⟩ := inductionHypothesis othersSame behind
          fun long => short (.down isStep noTarget long)
        exact ⟨last, count, .down isStep (Nat.lt_of_not_le fun long => short (.here isStep long))
          noTarget behind⟩
      | link _ _ found behind =>
        have isStep := isStep_of_found named found
        rw [← Spot.place_child] at found
        rw [← Spot.place_startOf] at behind
        obtain ⟨middle, inside, along⟩ := fewerLinks _ (Nat.lt_succ_self _) (sameSteps_target _) behind
          fun long => short (.inside isStep found long)
        obtain ⟨fewer, isFewer, behind⟩ := along.meets (sameSteps_target _) behind
        obtain ⟨last, count, behind⟩ := fewerLinks fewer (Nat.lt_succ_of_le isFewer) othersSame behind
          fun long => short (.link isStep found along long)
        exact ⟨last, inside + count + 1,
          .link isStep (Nat.lt_of_not_le fun long => short (.here isStep long)) found along behind⟩

/-! ## Paths -/

/-- No path is too long to which the resolution of a path comes, on its way or at its end. -/
structure StaysShort (system : System) (path : Path) : Prop where
  onWay : ¬ system.Overlong (Spot.atHere.startOf path.text) (splitSlashes path.text)
  atEnd : ∀ place, system.Leads path place → Text.Utf8.byteLength (Path.ofNames place).text < pathLimit

variable {path : Path}

theorem Leads.routed (leads : system.Leads path place) (named : system.root.Named) (parsed : IsParsed path)
    (short : system.StaysShort path) : system.Routed path place := by
  have way := leads.way
  rw [← List.append_nil path.names, ← place_start parsed] at way
  obtain ⟨last, count, route⟩ := way.route named (sameSteps_text parsed) short.onWay
  have routed : system.Routed path (last.place system.here) := ⟨last, count, route, rfl⟩
  rwa [routed.place_eq parsed leads] at routed

theorem Routed.staysShort (routed : system.Routed path place) (parsed : IsParsed path)
    (short : Text.Utf8.byteLength (Path.ofNames place).text < pathLimit) : system.StaysShort path where
  onWay := by
    obtain ⟨_, _, route, -⟩ := routed
    exact route.not_overlong
  atEnd reached leads := by
    rwa [routed.place_eq parsed leads] at short

end ProjectGauge.Files.System
