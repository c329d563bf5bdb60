import ProjectGauge.Proofs.Files.Write

/-!
# The working directory

Only paths that start at the working directory depend on it, and no change of the files moves it.

* `Leads.workingIn` and `nodeAt_workingIn`: other paths lead where they do from any working directory.
* `here_of_write` and `here_of_makeDirectoryBelow`: what is written leaves the working directory as it is.
-/

namespace ProjectGauge.Files

namespace System

variable {system : System} {path : Path} {here start names place : List Name} {links : Nat}

/-- The file system with another working directory. -/
def workingIn (system : System) (here : List Name) : System :=
  { system with here }

theorem Way.workingIn (way : system.Way links start names place) (here : List Name) :
    (system.workingIn here).Way links start names place := by
  induction way with
  | arrived => exact .arrived
  | stay inside _ inductionHypothesis => exact .stay inside inductionHypothesis
  | up inside _ inductionHypothesis => exact .up inside inductionHypothesis
  | down inside proper found notLink _ inductionHypothesis =>
    exact .down inside proper found notLink inductionHypothesis
  | link inside proper found _ inductionHypothesis => exact .link inside proper found inductionHypothesis

/-- Where a path does not start at the working directory, it leads to the same place from any. -/
theorem Leads.workingIn (leads : system.Leads path place) (same : path.anchor = .here → here = system.here) :
    (system.workingIn here).Leads path place := by
  have sameStart : (system.workingIn here).startOf path = system.startOf path := by
    unfold startOf
    cases anchor : path.anchor with
    | here => exact same anchor
    | _ => rfl
  exact ⟨leads.fits, sameStart ▸ leads.way.workingIn here⟩

theorem nodeAt_workingIn {node : Node} (same : path.anchor = .here → here = system.here)
    (found : system.nodeAt path = .ok node) : (system.workingIn here).nodeAt path = .ok node := by
  obtain ⟨place, leads, isThere⟩ := nodeAt_iff.mp found
  exact nodeAt_iff.mpr ⟨place, leads.workingIn same, isThere⟩

/-! ## Writing keeps the working directory -/

variable {after : System}

theorem here_of_write {content : Content} (written : system.write path content = .ok after) :
    after.here = system.here := by
  unfold write at written
  obtain ⟨place, -, written⟩ := bind_eq_ok.mp written
  split at written
  · cases written
  · cases written
    rfl

theorem here_of_create {node : Node} (created : system.create path node = .ok after) :
    after.here = system.here := by
  unfold create at created
  obtain ⟨place, -, created⟩ := bind_eq_ok.mp created
  split at created
  · cases created
  · cases created
    rfl

theorem here_of_settleDirectory {made : Except Error System}
    (known : ∀ after, made = .ok after → after.here = system.here)
    (settled : system.settleDirectory path made = .ok after) : after.here = system.here := by
  cases made with
  | ok made =>
    cases settled
    exact known _ rfl
  | error e =>
    obtain ⟨isDirectory, -, settled⟩ := bind_eq_ok.mp settled
    cases isDirectory <;> cases settled
    rfl

theorem here_of_makeDirectoryBelow {above : Nat}
    (made : system.makeDirectoryBelow above path = .ok after) : after.here = system.here := by
  induction above generalizing path after with
  | zero => exact here_of_settleDirectory (fun _ => here_of_create) made
  | succ above inductionHypothesis =>
    unfold makeDirectoryBelow at made
    split at made
    · obtain ⟨middle, madeAbove, made⟩ := bind_eq_ok.mp made
      exact (here_of_settleDirectory (fun _ => here_of_create) made).trans (inductionHypothesis madeAbove)
    · exact here_of_settleDirectory (fun _ => here_of_create) made

end System
end ProjectGauge.Files
