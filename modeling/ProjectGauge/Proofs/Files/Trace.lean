import ProjectGauge.Proofs.Files.Overlong

/-!
# Resolutions that end

A resolution that meets no loop leaves a trace: it goes down at a spot that the system does not know to be a
link, and along the target of one that it does.  A link that is met again has been followed to its end, so the
trace is the same as if nothing were remembered.  Where no path is too long, the system knows all links, and
the trace is a route.

* `trace_of_resolveStep`: a resolution that ends has a trace.
* `Trace.areKept` says which names the end of a trace has, and `Trace.route` when it is a route.
* `resolve_of_plain`: a plain place is resolved to itself if it is where another path is resolved to.
-/

namespace ProjectGauge.Files

deriving instance DecidableEq for Resolution

namespace System

/-- What a resolution does that ends at a spot. -/
inductive Trace (system : System) : Spot → List Name → Spot → Prop where
  | arrived {spot : Spot} : Trace system spot [] spot
  | stay {spot last : Spot} {name : Name} {rest : List Name} (idle : isIdle name = true)
    (behind : Trace system spot rest last) : Trace system spot (name :: rest) last
  | up {spot last : Spot} {rest : List Name} (behind : Trace system spot.up rest last) :
    Trace system spot (parent :: rest) last
  | down {spot last : Spot} {name : Name} {rest : List Name} (isStep : IsStep name)
    (unknown : system.linkAt? (spot.child name) = none) (behind : Trace system (spot.child name) rest last) :
    Trace system spot (name :: rest) last
  | link {spot middle last : Spot} {name : Name} {rest : List Name} {target : List Char}
    (isStep : IsStep name) (known : system.linkAt? (spot.child name) = some target)
    (along : Trace system (spot.startOf target) (splitSlashes target) middle)
    (behind : Trace system middle rest last) : Trace system spot (name :: rest) last

variable {system : System} {spot last : Spot} {names rest : List Name} {trail behind : Trail} {depth : Nat}

/-! ## The trace of a resolution -/

/-- A link with the spot to which a resolution comes along its target. -/
def Traced (system : System) (link found : Spot) : Prop :=
  ∃ (above : Spot) (name : Name) (target : List Char), link = above.child name ∧
    system.linkAt? link = some target ∧ system.Trace (above.startOf target) (splitSlashes target) found

/-- The links of a trail that have been followed to their ends. -/
def Settled (system : System) (trail : Trail) : Prop :=
  ∀ link found, trail.find? link = some (some found) → system.Traced link found

theorem settled_nil : system.Settled [] := by
  simp [Settled, Trail.find?]

theorem Settled.cons {link : Spot} {found : Option Spot} (settled : system.Settled trail)
    (traced : ∀ spot, found = some spot → system.Traced link spot) : system.Settled ((link, found) :: trail) := by
  intro other otherFound isThere
  by_cases same : link = other
  · rw [Trail.find?, if_pos same] at isThere
    exact same ▸ traced otherFound (Option.some.inj isThere)
  · rw [Trail.find?, if_neg same] at isThere
    exact settled other otherFound isThere

theorem trace_of_step {follow : Spot → List Char → Trail → Except Error Resolution}
    (inside : ∀ spot target trail last behind, follow spot target trail = .ok (.found last behind) →
      system.Settled trail →
        system.Trace (spot.startOf target) (splitSlashes target) last ∧ system.Settled behind)
    (found : system.resolveStep follow spot names trail = .ok (.found last behind))
    (settled : system.Settled trail) : system.Trace spot names last ∧ system.Settled behind := by
  -- The trail stays settled along the names: only a link that has been followed to its end is marked with one.
  induction names generalizing spot trail with
  | nil =>
    cases found
    exact ⟨.arrived, settled⟩
  | cons name rest inductionHypothesis =>
    by_cases idle : isIdle name = true
    · rw [resolveStep_idle idle] at found
      obtain ⟨trace, settled⟩ := inductionHypothesis found settled
      exact ⟨.stay idle trace, settled⟩
    by_cases isParent : name = parent
    · subst isParent
      rw [resolveStep_up] at found
      obtain ⟨trace, settled⟩ := inductionHypothesis found settled
      exact ⟨.up trace, settled⟩
    by_cases null : name.contains '\x00' = true
    · rw [resolveStep, if_neg (by simpa [isIdle] using idle), if_neg isParent, if_pos null] at found
      cases found
    have isStep : IsStep name := ⟨by simpa using idle, isParent, by simpa using null⟩
    rw [resolveStep_isStep isStep] at found
    cases target : system.linkAt? (spot.child name) with
    | none =>
      rw [target] at found
      obtain ⟨trace, settled⟩ := inductionHypothesis found settled
      exact ⟨.down isStep target trace, settled⟩
    | some text =>
      rw [target] at found
      dsimp only at found
      cases known : trail.find? (spot.child name) with
      | some mark =>
        rw [known] at found
        cases mark with
        | none => cases found
        | some reached =>
          -- The link has been followed before, from the same spot and along the same target.
          obtain ⟨above, other, otherText, same, otherTarget, along⟩ := settled _ _ known
          obtain ⟨rfl, rfl⟩ := Spot.child_injective same
          cases target.symm.trans otherTarget
          obtain ⟨trace, settled⟩ := inductionHypothesis found settled
          exact ⟨.link isStep target along trace, settled⟩
      | none =>
        rw [known] at found
        dsimp only at found
        -- The link is open while its target is followed, and an error or a loop there would be one here.
        cases followed : follow spot text ((spot.child name, none) :: trail) with
        | error e =>
          rw [followed] at found
          cases found
        | ok resolution =>
          rw [followed] at found
          cases resolution with
          | loop left => cases found
          | found middle inner =>
            obtain ⟨along, innerSettled⟩ := inside _ _ _ _ _ followed (settled.cons (by simp))
            have traced : system.Traced (spot.child name) middle := ⟨spot, name, text, rfl, target, along⟩
            obtain ⟨trace, settled⟩ := inductionHypothesis found
              (innerSettled.cons fun _ same => Option.some.inj same ▸ traced)
            exact ⟨.link isStep target along trace, settled⟩

theorem trace_of_resolveFrom {text : List Char}
    (found : system.resolveFrom depth spot text trail = .ok (.found last behind))
    (settled : system.Settled trail) :
    system.Trace (spot.startOf text) (splitSlashes text) last ∧ system.Settled behind := by
  -- Each link takes one off the depth, and at depth zero nothing is found.
  induction depth generalizing spot text trail last behind with
  | zero => cases found
  | succ depth inductionHypothesis =>
    exact trace_of_step (fun _ _ _ _ _ followed settled => inductionHypothesis followed settled) found settled

/-! ## The end of a trace -/

/-- A name that a resolution keeps. -/
structure IsKept (name : Name) : Prop where
  isName : IsName name
  noNull : name.contains '\x00' = false

/-- Where a resolution starts in a directory with a proper path, it ends at a place with one. -/
theorem Trace.areKept (trace : system.Trace spot names last) (noSlash : ∀ name ∈ names, '/' ∉ name)
    (start : ∀ name ∈ spot.place system.here, IsKept name) : ∀ name ∈ last.place system.here, IsKept name := by
  induction trace with
  | arrived => exact start
  | stay _ _ inductionHypothesis =>
    exact inductionHypothesis (fun name member => noSlash name (List.mem_cons_of_mem _ member)) start
  | up _ inductionHypothesis =>
    refine inductionHypothesis (fun name member => noSlash name (List.mem_cons_of_mem _ member)) ?_
    rw [Spot.place_up]
    exact fun name member => start name (List.dropLast_subset _ member)
  | down isStep _ _ inductionHypothesis =>
    refine inductionHypothesis (fun name member => noSlash name (List.mem_cons_of_mem _ member)) ?_
    rw [Spot.place_child]
    intro name member
    rcases List.mem_append.mp member with inFront | isLast
    · exact start name inFront
    · rw [List.mem_singleton.mp isLast]
      exact ⟨isName_of_isStep isStep (noSlash _ List.mem_cons_self), isStep.noNull⟩
  | link _ _ _ _ alongHypothesis inductionHypothesis =>
    refine inductionHypothesis (fun name member => noSlash name (List.mem_cons_of_mem _ member))
      (alongHypothesis (fun name => noSlash_of_mem_splitSlashes) ?_)
    -- A target starts at the root, or where the link stands.
    rw [Spot.place_startOf]
    unfold Files.startOf
    split
    · simp
    · exact start

theorem linkAt?_eq_some {target : List Char} (known : system.linkAt? spot = some target) :
    Text.Utf8.byteLength spot.text < pathLimit ∧ system.at? (spot.place system.here) = some (.link target) := by
  unfold linkAt? at known
  split at known
  · cases known
  · rename_i short
    refine ⟨Nat.lt_of_not_le short, ?_⟩
    obtain ⟨node, found, isTarget⟩ := Option.bind_eq_some_iff.mp known
    rw [found]
    cases node with
    | link other => exact congrArg (fun text => some (Node.link text)) (Option.some.inj isTarget)
    | _ => cases isTarget

/-- Where no path is too long, a trace is a route. -/
theorem Trace.route (trace : system.Trace spot names last) (short : ¬ system.Overlong spot names) :
    ∃ links, system.Route spot names last links := by
  induction trace with
  | arrived => exact ⟨0, .arrived⟩
  | stay idle _ inductionHypothesis =>
    obtain ⟨links, route⟩ := inductionHypothesis fun long => short (.stay idle long)
    exact ⟨links, .stay idle route⟩
  | up _ inductionHypothesis =>
    obtain ⟨links, route⟩ := inductionHypothesis fun long => short (.up long)
    exact ⟨links, .up route⟩
  | @down spot _ name _ isStep unknown _ inductionHypothesis =>
    have fits := Nat.lt_of_not_le fun long => short (.here isStep long)
    have notLink (target : List Char) :
        system.at? ((spot.child name).place system.here) ≠ some (.link target) := by
      intro isLink
      rw [linkAt?_eq fits, isLink] at unknown
      cases unknown
    obtain ⟨links, route⟩ := inductionHypothesis fun long => short (.down isStep notLink long)
    exact ⟨links, .down isStep fits notLink route⟩
  | link isStep known _ _ alongHypothesis inductionHypothesis =>
    obtain ⟨fits, isLink⟩ := linkAt?_eq_some known
    obtain ⟨inside, along⟩ := alongHypothesis fun long => short (.inside isStep isLink long)
    obtain ⟨links, route⟩ := inductionHypothesis fun long => short (.link isStep isLink along long)
    exact ⟨inside + links + 1, .link isStep fits isLink along route⟩

/-! ## Paths -/

/-- The resolution of a path comes to its end without meeting a loop of links. -/
def Unlooped (system : System) (path : Path) : Prop :=
  ∃ last trail, system.resolveFrom system.linkDepth .atHere path.text [] = .ok (.found last trail)

variable {path base : Path} {place : List Name}

theorem Unlooped.trace (unlooped : system.Unlooped path) (resolved : system.resolve path = .ok base) :
    ∃ last, base = .ofNames (last.place system.here) ∧
      system.Trace (Spot.atHere.startOf path.text) (splitSlashes path.text) last := by
  obtain ⟨last, trail, found⟩ := unlooped
  exact ⟨last, base_of_found found resolved, (trace_of_resolveFrom found settled_nil).1⟩

/-- Two paths whose resolutions come to the same place are resolved alike. -/
theorem resolve_congr {other : Path} {otherLast : Spot} {otherTrail : Trail}
    (found : system.resolveFrom system.linkDepth .atHere path.text [] = .ok (.found last trail))
    (otherFound : system.resolveFrom system.linkDepth .atHere other.text [] = .ok (.found otherLast otherTrail))
    (same : last.place system.here = otherLast.place system.here) : system.resolve path = system.resolve other := by
  unfold resolve
  rw [found, otherFound, ok_bind, ok_bind]
  simp only [pathOf, same]

/-- Going down to a plain place, a resolution sees no links, however long the path of the place is. -/
theorem IsPlain.resolveStep {follow : Spot → List Char → Trail → Except Error Resolution}
    (plain : system.IsPlain place) (noNull : ∀ name ∈ place, name.contains '\x00' = false)
    {front back : List Name} (split : front ++ back = place) :
    system.resolveStep follow ⟨.root, front⟩ back trail = .ok (.found ⟨.root, place⟩ trail) := by
  induction back generalizing front with
  | nil =>
    rw [← split, List.append_nil]
    rfl
  | cons name rest inductionHypothesis =>
    have member : name ∈ place := split ▸ List.mem_append_right _ List.mem_cons_self
    have isName := plain.areNames name member
    have isStep : IsStep name :=
      ⟨by simp [isIdle, isName.some, isName.notSelf], isName.notParent, noNull name member⟩
    have unknown : system.linkAt? (Spot.child ⟨.root, front⟩ name) = none := by
      by_contra linked
      obtain ⟨target, known⟩ := Option.ne_none_iff_exists'.mp linked
      have isFront : front ++ [name] <+: place := ⟨rest, by rw [← split]; simp⟩
      exact plain.noLink _ isFront target (linkAt?_eq_some known).2
    rw [resolveStep_isStep isStep, unknown]
    exact inductionHypothesis (by rw [← split]; simp)

theorem IsPlain.resolveFrom (plain : system.IsPlain place)
    (noNull : ∀ name ∈ place, name.contains '\x00' = false) :
    system.resolveFrom (depth + 1) .atHere (Path.ofNames place).text trail = .ok (.found ⟨.root, place⟩ trail) := by
  have pieces : splitSlashes (Path.ofNames place).text = [] :: splitSlashes (joined ['/'] place) := rfl
  rw [System.resolveFrom, pieces, resolveStep_idle rfl]
  cases place with
  | nil => rfl
  | cons first rest =>
    rw [splitSlashes_joined (List.cons_ne_nil _ _) fun name member => (plain.areNames name member).noSlash]
    exact plain.resolveStep noNull rfl

/-- A plain place is resolved to itself if another path is resolved to it. -/
theorem Unlooped.resolve_of_plain (unlooped : system.Unlooped path)
    (resolved : system.resolve path = .ok (.ofNames place)) (plain : system.IsPlain place)
    (noNull : ∀ name ∈ place, name.contains '\x00' = false) :
    system.resolve (.ofNames place) = .ok (.ofNames place) := by
  obtain ⟨last, trail, found⟩ := unlooped
  obtain ⟨depth, deep⟩ : ∃ depth, system.linkDepth = depth + 1 := ⟨system.linkDepth - 1, rfl⟩
  have again : system.resolveFrom system.linkDepth .atHere (Path.ofNames place).text [] =
      .ok (.found ⟨.root, place⟩ []) := by
    rw [deep]
    exact plain.resolveFrom noNull
  have same : place = last.place system.here := congrArg Path.names (base_of_found found resolved)
  rw [← resolve_congr found again same.symm, resolved]

end System
end ProjectGauge.Files
