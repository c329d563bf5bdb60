import ProjectGauge.Files.Resolve
import ProjectGauge.Proofs.Files.Spelling

/-!
# Routes to canonical places

A route is a resolution that meets no loop and no path that is too long: it stays, goes up, goes down to
an entry that is no link, or goes on behind a link at the end of the route along its target.  Unlike
the walk of the system it is not limited in its links, and it goes through names that lead to nothing.

* `Route.unique` and `Route.determined`: a route has one end, and where it starts at the same place it
  ends at the same place with as many links.
* `Route.plain`: nothing on the way to the end of a route is a link.
* `Route.meets`: a route ends where the walk of the system does.
-/

namespace ProjectGauge.Files

/-- What stands above a directory is a directory. -/
theorem Listing.at?_prefix {listing children : Listing} {front back : List Name}
    (found : listing.at? (front ++ back) = some (.directory children)) :
    ∃ others, listing.at? front = some (.directory others) := by
  induction back using List.reverseRecOn generalizing children with
  | nil => exact ⟨children, by simpa using found⟩
  | append_singleton back last inductionHypothesis =>
    rw [← List.append_assoc] at found
    obtain ⟨others, above⟩ := at?_dropLast (by simp) found
    rw [List.dropLast_concat] at above
    exact inductionHypothesis above

/-! ## Spots -/

namespace Spot

variable {here : List Name} {spot other : Spot} {name otherName : Name}

theorem place_child : (spot.child name).place here = spot.place here ++ [name] := by
  cases spot with
  | mk base names => cases base <;> simp [child, place]

theorem place_up : spot.up.place here = (spot.place here).dropLast := by
  obtain ⟨base, names⟩ := spot
  cases names with
  | nil =>
    cases base with
    | root => rfl
    | above steps =>
      simp only [up, place, List.append_nil, List.dropLast_eq_take, List.take_take, List.length_take]
      congr 1
      omega
  | cons first rest =>
    cases base <;> simp [up, place, List.dropLast_append_of_ne_nil]

theorem place_startOf (text : List Char) :
    (spot.startOf text).place here = Files.startOf (spot.place here) text := by
  unfold startOf Files.startOf
  split <;> rfl

theorem child_injective (same : spot.child name = other.child otherName) :
    spot = other ∧ name = otherName := by
  obtain ⟨base, names⟩ := spot
  obtain ⟨otherBase, otherNames⟩ := other
  simp only [child, mk.injEq] at same
  obtain ⟨rfl, sameNames⟩ := same
  obtain ⟨rfl, sameName⟩ := List.append_inj' sameNames rfl
  exact ⟨rfl, List.singleton_inj.mp sameName⟩

end Spot

/-! ## Routes -/

/-- A name at which a resolution stays where it is. -/
def isIdle (name : Name) : Bool :=
  name.isEmpty || name = self

/-- A name at which a resolution looks for an entry. -/
structure IsStep (name : Name) : Prop where
  busy : isIdle name = false
  notParent : name ≠ parent
  noNull : name.contains '\x00' = false

theorem IsStep.not_idle {name : Name} (isStep : IsStep name) : ¬ isIdle name = true := by
  simp [isStep.busy]

theorem isName_of_isStep {name : Name} (isStep : IsStep name) (noSlash : '/' ∉ name) : IsName name := by
  have busy := isStep.busy
  simp only [isIdle, Bool.or_eq_false_iff, List.isEmpty_eq_false_iff, decide_eq_false_iff_not] at busy
  exact ⟨busy.1, noSlash, busy.2, isStep.notParent⟩

namespace System

/-- The route along names from a spot to another, with the number of links on it. -/
inductive Route (system : System) : Spot → List Name → Spot → Nat → Prop where
  | arrived {spot : Spot} : Route system spot [] spot 0
  | stay {spot last : Spot} {name : Name} {rest : List Name} {links : Nat} (idle : isIdle name = true)
    (behind : Route system spot rest last links) : Route system spot (name :: rest) last links
  | up {spot last : Spot} {rest : List Name} {links : Nat}
    (behind : Route system spot.up rest last links) : Route system spot (parent :: rest) last links
  | down {spot last : Spot} {name : Name} {rest : List Name} {links : Nat} (isStep : IsStep name)
    (short : Text.Utf8.byteLength (spot.child name).text < pathLimit)
    (notLink : ∀ target, system.at? ((spot.child name).place system.here) ≠ some (.link target))
    (behind : Route system (spot.child name) rest last links) :
    Route system spot (name :: rest) last links
  | link {spot middle last : Spot} {name : Name} {rest : List Name} {target : List Char}
    {inside links : Nat} (isStep : IsStep name)
    (short : Text.Utf8.byteLength (spot.child name).text < pathLimit)
    (found : system.at? ((spot.child name).place system.here) = some (.link target))
    (along : Route system (spot.startOf target) (splitSlashes target) middle inside)
    (behind : Route system middle rest last links) :
    Route system spot (name :: rest) last (inside + links + 1)

variable {system : System} {spot last other otherLast : Spot} {names : List Name} {links otherLinks : Nat}

namespace Route

/-- Routes along the same names from one place end at one place, with as many links.  From one spot they
end at one spot. -/
theorem determined (route : system.Route spot names last links)
    (otherRoute : system.Route other names otherLast otherLinks)
    (same : spot.place system.here = other.place system.here) :
    last.place system.here = otherLast.place system.here ∧ links = otherLinks ∧
      (spot = other → last = otherLast) := by
  -- What a step does depends on the place of the spot only, so both routes take the same steps.
  induction route generalizing other otherLast otherLinks with
  | arrived =>
    cases otherRoute
    exact ⟨same, rfl, id⟩
  | stay idle _ inductionHypothesis =>
    cases otherRoute with
    | stay _ behind => exact inductionHypothesis behind same
    | up => cases idle
    | down isStep | link isStep => exact absurd idle isStep.not_idle
  | up _ inductionHypothesis =>
    cases otherRoute with
    | stay idle => cases idle
    | up behind =>
      obtain ⟨place, sameLinks, spotsAgree⟩ :=
        inductionHypothesis behind (by rw [Spot.place_up, Spot.place_up, same])
      exact ⟨place, sameLinks, fun sameSpot => spotsAgree (by rw [sameSpot])⟩
    | down isStep | link isStep => exact absurd rfl isStep.notParent
  | down isStep short notLink _ inductionHypothesis =>
    cases otherRoute with
    | stay idle => exact absurd idle isStep.not_idle
    | up => exact absurd rfl isStep.notParent
    | down _ _ _ behind =>
      obtain ⟨place, sameLinks, spotsAgree⟩ :=
        inductionHypothesis behind (by rw [Spot.place_child, Spot.place_child, same])
      exact ⟨place, sameLinks, fun sameSpot => spotsAgree (by rw [sameSpot])⟩
    | link _ _ found =>
      rw [Spot.place_child, ← same, ← Spot.place_child] at found
      exact absurd found (notLink _)
  | link isStep short found _ _ alongHypothesis inductionHypothesis =>
    cases otherRoute with
    | stay idle => exact absurd idle isStep.not_idle
    | up => exact absurd rfl isStep.notParent
    | down _ _ notLink =>
      rw [Spot.place_child, same, ← Spot.place_child] at found
      exact absurd found (notLink _)
    | link _ _ otherFound along behind =>
      rw [Spot.place_child, ← same, ← Spot.place_child, found] at otherFound
      cases otherFound
      obtain ⟨middlePlace, rfl, middlesAgree⟩ :=
        alongHypothesis along (by rw [Spot.place_startOf, Spot.place_startOf, same])
      obtain ⟨place, rfl, spotsAgree⟩ := inductionHypothesis behind middlePlace
      exact ⟨place, rfl, fun sameSpot => spotsAgree (middlesAgree (by rw [sameSpot]))⟩

theorem unique (route : system.Route spot names last links)
    (otherRoute : system.Route spot names otherLast otherLinks) : last = otherLast :=
  (route.determined otherRoute rfl).2.2 rfl

end Route

/-! ## The end of a route -/

/-- A place on the way to which nothing is a link, and whose names are those that entries can have. -/
structure IsPlain (system : System) (place : List Name) : Prop where
  areNames : ∀ name ∈ place, IsName name
  noLink : ∀ front, front <+: place → ∀ target, system.at? front ≠ some (.link target)

theorem IsPlain.root : system.IsPlain [] where
  areNames := by simp
  noLink := by
    intro front isFront target found
    rw [List.prefix_nil.mp isFront] at found
    cases found

theorem IsPlain.dropLast {place : List Name} (plain : system.IsPlain place) :
    system.IsPlain place.dropLast where
  areNames name member := plain.areNames name (List.dropLast_subset _ member)
  noLink front isFront := plain.noLink front (isFront.trans (List.dropLast_prefix place))

theorem IsPlain.concat {place : List Name} {name : Name} (plain : system.IsPlain place)
    (isName : IsName name) (notLink : ∀ target, system.at? (place ++ [name]) ≠ some (.link target)) :
    system.IsPlain (place ++ [name]) where
  areNames other member := by
    rcases List.mem_append.mp member with inFront | isLast
    · exact plain.areNames other inFront
    · rw [List.mem_singleton.mp isLast]
      exact isName
  noLink front isFront := by
    rcases List.prefix_concat_iff.mp isFront with rfl | isFront
    · exact notLink
    · exact plain.noLink front isFront

theorem HasDirectory.isPlain {place : List Name} (isDirectory : system.HasDirectory place)
    (areNames : ∀ name ∈ place, IsName name) : system.IsPlain place where
  areNames := areNames
  noLink := by
    rintro front ⟨back, rfl⟩ target found
    obtain ⟨children, isDirectory⟩ := isDirectory
    obtain ⟨others, isDirectory⟩ := Listing.at?_prefix isDirectory
    rw [at?, isDirectory] at found
    cases found

namespace Route

/-- A route that starts at a plain place ends at one. -/
theorem plain (route : system.Route spot names last links)
    (noSlash : ∀ name ∈ names, '/' ∉ name) (start : system.IsPlain (spot.place system.here)) :
    system.IsPlain (last.place system.here) := by
  induction route with
  | arrived => exact start
  | stay _ _ inductionHypothesis =>
    exact inductionHypothesis (fun name member => noSlash name (List.mem_cons_of_mem _ member)) start
  | up _ inductionHypothesis =>
    refine inductionHypothesis (fun name member => noSlash name (List.mem_cons_of_mem _ member)) ?_
    rw [Spot.place_up]
    exact start.dropLast
  | down isStep _ notLink _ inductionHypothesis =>
    refine inductionHypothesis (fun name member => noSlash name (List.mem_cons_of_mem _ member)) ?_
    rw [Spot.place_child] at notLink ⊢
    exact start.concat (isName_of_isStep isStep (noSlash _ List.mem_cons_self)) notLink
  | @link spot _ _ _ _ target _ _ _ _ _ _ _ alongHypothesis inductionHypothesis =>
    refine inductionHypothesis (fun name member => noSlash name (List.mem_cons_of_mem _ member))
      (alongHypothesis (fun name => noSlash_of_mem_splitSlashes) ?_)
    rw [Spot.place_startOf]
    unfold Files.startOf
    split
    · exact IsPlain.root
    · exact start

end Route

/-! ## Walks along a route -/

/-- The names that a walk looks up are those that a resolution does not stay at. -/
def SameSteps (walked : List Name) (names : List Name) : Prop :=
  walked.filter (· != self) = names.filter fun name => !isIdle name

theorem isIdle_eq (name : Name) : (!isIdle name) = (!name.isEmpty && name != self) := by
  simp [isIdle, bne, beq_eq_decide]

/-- The names of a target without the empty ones, and with a point where it ends with a slash. -/
theorem sameSteps_target (target : List Char) : SameSteps (targetNames target) (splitSlashes target) := by
  unfold SameSteps targetNames namesIn
  rw [List.filter_append, List.filter_filter]
  have last : (if target.getLast? == some '/' then [self] else []).filter (· != self) = [] := by
    split <;> rfl
  rw [last, List.append_nil]
  congr 1
  funext name
  rw [isIdle_eq, Bool.and_comm]

/-- A walk stays where it is at points. -/
theorem Way.skip {start place walked rest : List Name}
    (points : walked.filter (· != self) = []) (way : system.Way links start (walked ++ rest) place) :
    system.Way links start rest place := by
  induction walked with
  | nil => exact way
  | cons name walked inductionHypothesis =>
    have isSelf : name = self := by
      by_contra other
      rw [List.filter_cons_of_pos (by simpa using other)] at points
      cases points
    subst isSelf
    rw [List.filter_cons_of_neg (by simp)] at points
    cases way with
    | stay _ behind => exact inductionHypothesis points behind
    | down _ proper | link _ proper => exact absurd rfl proper.notSelf

/-- A walk stays where it is up to the first name that is no point. -/
theorem Way.skip_to {start place walked rest more : List Name} {name : Name}
    (steps : walked.filter (· != self) = name :: more)
    (way : system.Way links start (walked ++ rest) place) :
    ∃ others, others.filter (· != self) = more ∧
      system.Way links start (name :: others ++ rest) place := by
  obtain ⟨front, others, rfl, points, -, same⟩ := List.filter_eq_cons_iff.mp steps
  rw [List.append_assoc] at way
  exact ⟨others, same, way.skip (List.filter_eq_nil_iff.mpr points)⟩

/-- What the system walks along the names of a route, and then along others, leads from the end of the
route along the others, and no more links may be followed there. -/
theorem Route.meets (route : system.Route spot names last links) {walkLinks : Nat}
    {walked rest place : List Name} (same : SameSteps walked names)
    (way : system.Way walkLinks (spot.place system.here) (walked ++ rest) place) :
    ∃ fewer ≤ walkLinks, system.Way fewer (last.place system.here) rest place := by
  -- Points and empty names are steps of one of the two only, and are left out of the comparison.
  induction route generalizing walkLinks walked rest with
  | arrived => exact ⟨walkLinks, Nat.le_refl _, way.skip same⟩
  | stay idle _ inductionHypothesis =>
    refine inductionHypothesis ?_ way
    rw [SameSteps, List.filter_cons_of_neg (by simp [idle])] at same
    exact same
  | up _ inductionHypothesis =>
    rw [SameSteps, List.filter_cons_of_pos (by decide)] at same
    obtain ⟨others, othersSame, way⟩ := way.skip_to same
    cases way with
    | up _ behind => exact inductionHypothesis othersSame (by rw [Spot.place_up]; exact behind)
    | down _ proper | link _ proper => exact absurd rfl proper.notParent
  | down isStep _ notLink _ inductionHypothesis =>
    rw [SameSteps, List.filter_cons_of_pos (by simp [isStep.busy])] at same
    obtain ⟨others, othersSame, way⟩ := way.skip_to same
    cases way with
    | stay => exact absurd isStep.busy (by decide)
    | up => exact absurd rfl isStep.notParent
    | down _ _ _ _ behind =>
      exact inductionHypothesis othersSame (by rw [Spot.place_child]; exact behind)
    | link _ _ found =>
      rw [Spot.place_child] at notLink
      exact absurd found (notLink _)
  | link isStep _ found _ _ alongHypothesis inductionHypothesis =>
    rw [SameSteps, List.filter_cons_of_pos (by simp [isStep.busy])] at same
    obtain ⟨others, othersSame, way⟩ := way.skip_to same
    rw [Spot.place_child] at found
    cases way with
    | stay => exact absurd isStep.busy (by decide)
    | up => exact absurd rfl isStep.notParent
    | down _ _ otherFound notLink =>
      rw [found] at otherFound
      cases otherFound
      cases notLink
    | link _ _ otherFound behind =>
      -- The walk goes along the target first, and so does the route.
      rw [found] at otherFound
      cases otherFound
      obtain ⟨fewer, isFewer, behind⟩ := alongHypothesis (sameSteps_target _)
        (by rw [Spot.place_startOf]; exact behind)
      obtain ⟨left, isLess, behind⟩ := inductionHypothesis othersSame behind
      exact ⟨left, by omega, behind⟩

end System
end ProjectGauge.Files
