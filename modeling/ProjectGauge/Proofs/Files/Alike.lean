import ProjectGauge.Files.Resolve
import ProjectGauge.Proofs.Files.Write

/-!
# File systems that differ in contents

When a file is written in the place of another one, every entry keeps its kind and no entry comes or goes.
No walk and no resolution can tell the difference.

* `System.Alike` says so of two file systems, and `alike_write` of a file that is written again.
* `Alike.walk` and `Alike.resolve`: all paths lead where they did.
-/

namespace ProjectGauge.Files

namespace Node

/-- What walks and resolutions see of an entry. -/
def kind (node : Node) : Bool × Option (List Char) :=
  (node.isDirectory, node.target?)

/-- The number of links in an entry. -/
def linkCount : Node → Nat
  | file _ => 0
  | link _ => 1
  | directory children => children.linkCount

end Node

/-! ## Listings -/

namespace Listing

theorem kind_at?_set {listing : Listing} {place : List Name} {old : Content}
    (found : listing.at? place = some (.file old)) (content : Content) (other : List Name) :
    ((listing.set (.file content) place).at? other).map Node.kind =
      (listing.at? other).map Node.kind := by
  -- Both places are gone down together, and part at the first name that differs.
  induction place generalizing listing other with
  | nil => cases found
  | cons name rest inductionHypothesis =>
    cases other with
    | nil => rfl
    | cons first more =>
      cases rest with
      | nil =>
        have setHere := find?_modify name first (fun _ => .file content) listing
        rw [at?_singleton] at found
        by_cases same : name = first
        · subst same
          rw [if_pos rfl] at setHere
          change ((listing.modify name fun _ => some (.file content)).at? (name :: more)).map _ = _
          rw [at?, at?, setHere, found]
          cases more <;> rfl
        · rw [if_neg same] at setHere
          exact congrArg _ (at?_cons_of_find? setHere more)
      | cons next rest =>
        obtain ⟨children, isDirectory, inside⟩ := find?_of_at? found
        have setHere := find?_modify name first
          (fun old => .directory ((childrenOf old).set (.file content) (next :: rest))) listing
        rw [← set_cons, isDirectory] at setHere
        by_cases same : name = first
        · subst same
          rw [if_pos rfl] at setHere
          rw [at?_cons_directory _ setHere, at?_cons_directory _ isDirectory]
          exact inductionHypothesis inside more
        · rw [if_neg same] at setHere
          exact congrArg _ (at?_cons_of_find? setHere more)

theorem linkCount_cons (name : Name) (node : Node) (rest : Listing) :
    (cons name node rest).linkCount = node.linkCount + rest.linkCount := by
  cases node <;> simp [cons, linkCount, Node.linkCount, Nat.add_comm]

theorem linkCount_modify_cons {name : Name} {change : Option Node → Node} {rest : Listing} {old : Node}
    (inRest : rest.find? name = some old →
      (rest.modify name fun node => some (change node)).linkCount = rest.linkCount)
    (same : (change (some old)).linkCount = old.linkCount) (here : Name) (node : Node)
    (found : (cons here node rest).find? name = some old) :
    ((cons here node rest).modify name fun node => some (change node)).linkCount =
      (cons here node rest).linkCount := by
  rw [modify_cons]
  rw [find?_cons] at found
  split
  · rename_i isHere
    rw [if_pos isHere] at found
    cases found
    rw [linkCount_cons, linkCount_cons, same]
  · rename_i different
    rw [if_neg different] at found
    rw [linkCount_cons, linkCount_cons, inRest found]

theorem linkCount_modify {name : Name} {change : Option Node → Node} {listing : Listing} {old : Node}
    (found : listing.find? name = some old) (same : (change (some old)).linkCount = old.linkCount) :
    (listing.modify name fun node => some (change node)).linkCount = listing.linkCount := by
  induction listing with
  | nil => cases found
  | file here content rest inductionHypothesis =>
    exact linkCount_modify_cons inductionHypothesis same here (.file content) found
  | link here target rest inductionHypothesis =>
    exact linkCount_modify_cons inductionHypothesis same here (.link target) found
  | directory here children rest _ inductionHypothesis =>
    exact linkCount_modify_cons inductionHypothesis same here (.directory children) found

theorem linkCount_set {listing : Listing} {place : List Name} {old : Content}
    (found : listing.at? place = some (.file old)) (content : Content) :
    (listing.set (.file content) place).linkCount = listing.linkCount := by
  induction place generalizing listing with
  | nil => cases found
  | cons name rest inductionHypothesis =>
    cases rest with
    | nil =>
      rw [at?_singleton] at found
      exact linkCount_modify found rfl
    | cons next rest =>
      obtain ⟨children, isDirectory, inside⟩ := find?_of_at? found
      rw [set_cons]
      exact linkCount_modify isDirectory (inductionHypothesis inside)

end Listing

/-! ## File systems -/

namespace System

/-- Two file systems with entries of the same kinds at the same places. -/
structure Alike (before after : System) : Prop where
  here : after.here = before.here
  linkCount : after.root.linkCount = before.root.linkCount
  kinds : ∀ place, (after.at? place).map Node.kind = (before.at? place).map Node.kind

variable {before after system : System}

/-- Writing to a file that is there leaves a file system that is alike. -/
theorem alike_write {path : Path} {old content : Content} (found : system.nodeAt path = .ok (.file old))
    (written : system.write path content = .ok after) : system.Alike after := by
  obtain ⟨place, leads, isThere⟩ := nodeAt_iff.mp found
  unfold write at written
  rw [leads.walk rfl, ok_bind, isThere] at written
  cases written
  exact ⟨rfl, Listing.linkCount_set isThere content, Listing.kind_at?_set isThere content⟩

namespace Alike

theorem extends_ (alike : before.Alike after) : before.Extends after where
  here := alike.here
  kept place node found := by
    have kinds := alike.kinds place
    rw [found] at kinds
    obtain ⟨new, isThere, same⟩ := Option.map_eq_some_iff.mp kinds
    exact ⟨new, isThere, (congrArg Prod.fst same).symm, (congrArg Prod.snd same).symm⟩

/-! ## Walks -/

theorem any_isDirectory (alike : before.Alike after) (place : List Name) :
    (after.at? place).any Node.isDirectory = (before.at? place).any Node.isDirectory := by
  have kinds := alike.kinds place
  cases inBefore : before.at? place <;> cases inAfter : after.at? place <;>
    rw [inBefore, inAfter] at kinds <;> simp_all [Node.kind]

theorem bind_target? (alike : before.Alike after) (place : List Name) :
    (after.at? place).bind Node.target? = (before.at? place).bind Node.target? := by
  have kinds := alike.kinds place
  cases inBefore : before.at? place <;> cases inAfter : after.at? place <;>
    rw [inBefore, inAfter] at kinds <;> simp_all [Node.kind]

/-- At each place there is nothing, or the same link, or an entry that is no link. -/
theorem at?_cases (alike : before.Alike after) (place : List Name) :
    before.at? place = none ∧ after.at? place = none ∨
      (∃ target, before.at? place = some (.link target) ∧ after.at? place = some (.link target)) ∨
      ∃ old new, before.at? place = some old ∧ after.at? place = some new ∧
        old.target? = none ∧ new.target? = none := by
  have kinds := alike.kinds place
  cases inBefore : before.at? place with
  | none =>
    rw [inBefore] at kinds
    exact .inl ⟨rfl, Option.map_eq_none_iff.mp kinds⟩
  | some old =>
    rw [inBefore] at kinds
    obtain ⟨new, inAfter, same⟩ := Option.map_eq_some_iff.mp kinds
    have sameTarget : new.target? = old.target? := congrArg Prod.snd same
    cases target : old.target? with
    | none => exact .inr (.inr ⟨old, new, rfl, inAfter, target, sameTarget.trans target⟩)
    | some text =>
      rw [target] at sameTarget
      cases old with
      | link oldText =>
        cases target
        cases new with
        | link newText =>
          cases sameTarget
          exact .inr (.inl ⟨_, rfl, inAfter⟩)
        | _ => cases sameTarget
      | _ => cases target

theorem step (alike : before.Alike after) (ending : Ending)
    {follow otherFollow : List Name → List Name → Except Cause (List Name)}
    (same : ∀ place names, otherFollow place names = follow place names) (place names : List Name) :
    after.step ending otherFollow place names = before.step ending follow place names := by
  induction names generalizing place with
  | nil => rfl
  | cons name rest inductionHypothesis =>
    unfold System.step
    rw [alike.any_isDirectory]
    refine ite_congr rfl (fun _ => rfl) fun _ => ite_congr rfl (fun _ => inductionHypothesis place) fun _ =>
      ite_congr rfl (fun _ => inductionHypothesis place.dropLast) fun _ => ite_congr rfl (fun _ => rfl) fun _ => ?_
    rcases alike.at?_cases (place ++ [name]) with
      ⟨missing, missingAfter⟩ | ⟨target, found, foundAfter⟩ |
      ⟨old, new, found, foundAfter, notLink, notLinkAfter⟩
    · rw [missing, missingAfter]
    · rw [found, foundAfter]
      dsimp only
      rw [same]
    · rw [found, foundAfter]
      cases old with
      | link target => cases notLink
      | _ =>
        cases new with
        | link target => cases notLinkAfter
        | _ => exact inductionHypothesis (place ++ [name])

theorem walkFrom (alike : before.Alike after) (ending : Ending) (links : Nat) (place names : List Name) :
    after.walkFrom ending links place names = before.walkFrom ending links place names := by
  induction links generalizing place names with
  | zero => exact alike.step ending (fun _ _ => rfl) place names
  | succ links inductionHypothesis => exact alike.step ending inductionHypothesis place names

theorem walk (alike : before.Alike after) (ending : Ending) (path : Path) :
    after.walk ending path = before.walk ending path := by
  have sameStart : after.startOf path = before.startOf path := by
    unfold System.startOf
    rw [alike.here]
  unfold System.walk
  rw [alike.walkFrom, sameStart]

/-! ## Resolutions -/

theorem linkAt? (alike : before.Alike after) (spot : Spot) : after.linkAt? spot = before.linkAt? spot := by
  unfold System.linkAt?
  rw [alike.here, alike.bind_target?]

theorem resolveStep (alike : before.Alike after)
    {follow otherFollow : Spot → List Char → Trail → Except Error Resolution}
    (same : ∀ spot text trail, otherFollow spot text trail = follow spot text trail)
    (spot : Spot) (names : List Name) (trail : Trail) :
    after.resolveStep otherFollow spot names trail = before.resolveStep follow spot names trail := by
  have sameFollow : otherFollow = follow := funext fun spot => funext fun text => funext (same spot text)
  subst sameFollow
  induction names generalizing spot trail with
  | nil => rfl
  | cons name rest inductionHypothesis =>
    unfold System.resolveStep
    dsimp only
    rw [alike.linkAt?]
    simp only [inductionHypothesis]

theorem resolveFrom (alike : before.Alike after) (depth : Nat) (spot : Spot) (text : List Char)
    (trail : Trail) : after.resolveFrom depth spot text trail = before.resolveFrom depth spot text trail := by
  induction depth generalizing spot text trail with
  | zero => rfl
  | succ depth inductionHypothesis => exact alike.resolveStep inductionHypothesis _ _ _

theorem pathOf (alike : before.Alike after) (resolution : Resolution) :
    after.pathOf resolution = before.pathOf resolution := by
  unfold System.pathOf plainPath
  rw [alike.here]

theorem resolve (alike : before.Alike after) (path : Path) : after.resolve path = before.resolve path := by
  have sameDepth : after.linkDepth = before.linkDepth := by
    unfold linkDepth
    rw [alike.linkCount, alike.here]
  unfold System.resolve
  simp only [sameDepth, alike.resolveFrom, alike.pathOf, alike.walk]

end Alike

end System
end ProjectGauge.Files
