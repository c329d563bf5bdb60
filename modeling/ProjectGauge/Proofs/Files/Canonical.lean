import ProjectGauge.Proofs.Files.Route
import Mathlib.Data.List.Perm.Subperm

/-!
# Resolutions follow routes

A resolution follows links to a limited depth and remembers the links that it has met.  Along a route
neither gets in its way: a link that is still being followed has more links behind it than are left to
go, so it is not met again, and there are no more such links than in the tree.

* `Route.resolveStep` is a resolution along a route.
* `Routed.eq_of_resolve` and `Routed.resolve_eq`: a path with a route is resolved to the end of the route.
* `Routed.place_eq`: that is where the system finds an entry, if it finds one along the path.
-/

namespace ProjectGauge.Files

/-! ## The links of a tree -/

namespace Listing

/-- The places of all links. -/
def linkPlaces : Listing → List (List Name)
  | nil => []
  | file _ _ rest => rest.linkPlaces
  | link name _ rest => [name] :: rest.linkPlaces
  | directory name children rest => children.linkPlaces.map (name :: ·) ++ rest.linkPlaces

theorem length_linkPlaces (listing : Listing) : listing.linkPlaces.length = listing.linkCount := by
  induction listing with
  | nil => rfl
  | file name content rest inductionHypothesis => exact inductionHypothesis
  | link name target rest inductionHypothesis => simp [linkPlaces, linkCount, inductionHypothesis]
  | directory name children rest inside inductionHypothesis =>
    simp [linkPlaces, linkCount, inside, inductionHypothesis]

theorem mem_linkPlaces {listing : Listing} {place : List Name} {target : List Char}
    (found : listing.at? place = some (.link target)) : place ∈ listing.linkPlaces := by
  induction listing generalizing place with
  | nil => cases place <;> simp [at?, find?] at found
  | file name content rest inductionHypothesis =>
    cases place with
    | nil => cases found
    | cons first more =>
      by_cases here : name = first
      · cases more <;> simp [at?, find?, here] at found
      · have behind : (file name content rest).find? first = rest.find? first := if_neg here
        rw [at?_cons_of_find? behind] at found
        exact inductionHypothesis found
  | link name other rest inductionHypothesis =>
    cases place with
    | nil => cases found
    | cons first more =>
      by_cases here : name = first
      · cases more with
        | nil => exact here ▸ List.mem_cons_self
        | cons next more => simp [at?, find?, here] at found
      · have behind : (link name other rest).find? first = rest.find? first := if_neg here
        rw [at?_cons_of_find? behind] at found
        exact List.mem_cons_of_mem _ (inductionHypothesis found)
  | directory name children rest inside inductionHypothesis =>
    cases place with
    | nil => cases found
    | cons first more =>
      rw [linkPlaces, List.mem_append]
      by_cases here : name = first
      · subst here
        have isDirectory : (directory name children rest).find? name = some (.directory children) :=
          if_pos rfl
        rw [at?_cons_directory more isDirectory] at found
        exact .inl (List.mem_map_of_mem (inside found))
      · have behind : (directory name children rest).find? first = rest.find? first := if_neg here
        rw [at?_cons_of_find? behind] at found
        exact .inr (inductionHypothesis found)

/-- Different places of links are not more than there are links. -/
theorem length_le_linkCount {listing : Listing} {places : List (List Name)} (distinct : places.Nodup)
    (areLinks : ∀ place ∈ places, ∃ target, listing.at? place = some (.link target)) :
    places.length ≤ listing.linkCount := by
  rw [← length_linkPlaces]
  refine (List.subperm_of_subset distinct fun place member => ?_).length_le
  obtain ⟨target, found⟩ := areLinks place member
  exact mem_linkPlaces found

end Listing

namespace System

variable {system : System} {spot last : Spot} {names : List Name} {links depth : Nat} {trail : Trail}

/-! ## Steps of a resolution -/

section Steps

variable {follow : Spot → List Char → Trail → Except Error Resolution} {name : Name} {rest : List Name}

theorem resolveStep_idle (idle : isIdle name = true) :
    system.resolveStep follow spot (name :: rest) trail = system.resolveStep follow spot rest trail :=
  if_pos idle

theorem resolveStep_up :
    system.resolveStep follow spot (parent :: rest) trail =
      system.resolveStep follow spot.up rest trail :=
  (if_neg (by decide)).trans (if_pos rfl)

theorem resolveStep_isStep (isStep : IsStep name) :
    system.resolveStep follow spot (name :: rest) trail =
      match system.linkAt? (spot.child name) with
      | none => system.resolveStep follow (spot.child name) rest trail
      | some target =>
        match trail.find? (spot.child name) with
        | some (some found) => system.resolveStep follow found rest trail
        | some none => .ok (.loop (joinTexts (spot.child name).text (joined ['/'] rest)))
        | none =>
          match follow spot target ((spot.child name, none) :: trail) with
          | .error e => .error e
          | .ok (.loop text) => .ok (.loop (joinTexts text (joined ['/'] rest)))
          | .ok (.found behind trail) =>
            system.resolveStep follow behind rest ((spot.child name, some behind) :: trail) :=
  (if_neg isStep.not_idle).trans ((if_neg isStep.notParent).trans (if_neg (by rw [isStep.noNull]; decide)))

theorem linkAt?_eq (short : Text.Utf8.byteLength spot.text < pathLimit) :
    system.linkAt? spot = (system.at? (spot.place system.here)).bind Node.target? :=
  if_neg (Nat.not_le.mpr short)

theorem linkAt?_none (short : Text.Utf8.byteLength spot.text < pathLimit)
    (notLink : ∀ target, system.at? (spot.place system.here) ≠ some (.link target)) :
    system.linkAt? spot = none := by
  rw [linkAt?_eq short]
  cases found : system.at? (spot.place system.here) with
  | none => rfl
  | some node =>
    cases node with
    | link target => exact absurd found (notLink target)
    | _ => rfl

end Steps

/-! ## Trails -/

/-- A link, the end of the route along its target, and the number of links on that route. -/
def Follows (system : System) (link found : Spot) (inside : Nat) : Prop :=
  ∃ (above : Spot) (name : Name) (target : List Char), link = above.child name ∧
    system.at? (link.place system.here) = some (.link target) ∧
    system.Route (above.startOf target) (splitSlashes target) found inside

/-- A trail with the links that are still being followed. -/
structure Marks (system : System) (trail : Trail) (following : List Spot) : Prop where
  settled : ∀ link found, trail.find? link = some (some found) → ∃ inside, system.Follows link found inside
  following : ∀ link, trail.find? link = some none → link ∈ following

/-- There is room for a route with a number of links: those that are still being followed have at least
as many behind them, and are not so many that the depth is used up. -/
structure Room (system : System) (depth : Nat) (following : List Spot) (links : Nat) : Prop where
  longer : ∀ link ∈ following, ∃ found inside, system.Follows link found inside ∧ links ≤ inside
  distinct : (following.map (Spot.place system.here)).Nodup
  enough : system.root.linkCount < depth + following.length

variable {following : List Spot} {link found : Spot} {inside : Nat}

theorem Room.mono {fewer : Nat} (room : system.Room depth following links) (ordered : fewer ≤ links) :
    system.Room depth following fewer where
  longer link member := by
    obtain ⟨found, inside, follows, bound⟩ := room.longer link member
    exact ⟨found, inside, follows, Nat.le_trans ordered bound⟩
  distinct := room.distinct
  enough := room.enough

/-- Links at one place have as many links behind them. -/
theorem Follows.unique {other otherFound : Spot} {otherInside : Nat}
    (follows : system.Follows link found inside)
    (otherFollows : system.Follows other otherFound otherInside)
    (same : link.place system.here = other.place system.here) :
    inside = otherInside ∧ (link = other → found = otherFound) := by
  obtain ⟨above, name, target, rfl, isLink, route⟩ := follows
  obtain ⟨otherAbove, otherName, otherTarget, rfl, otherIsLink, otherRoute⟩ := otherFollows
  rw [← same, isLink] at otherIsLink
  cases otherIsLink
  have places : (above.startOf target).place system.here =
      (otherAbove.startOf target).place system.here := by
    rw [Spot.place_child, Spot.place_child] at same
    rw [Spot.place_startOf, Spot.place_startOf, (List.append_inj' same rfl).1]
  obtain ⟨-, sameLinks, spotsAgree⟩ := route.determined otherRoute places
  refine ⟨sameLinks, fun sameSpot => spotsAgree ?_⟩
  rw [(Spot.child_injective sameSpot).1]

/-- A link with fewer links behind it than are left to go is not one that is being followed. -/
theorem Room.fresh (room : system.Room depth following links) (follows : system.Follows link found inside)
    (fewer : inside < links) : link.place system.here ∉ following.map (Spot.place system.here) := by
  intro member
  obtain ⟨other, isFollowed, same⟩ := List.mem_map.mp member
  obtain ⟨otherFound, otherInside, otherFollows, bound⟩ := room.longer other isFollowed
  have sameLinks := (otherFollows.unique follows same).1
  omega

/-- As long as there is room, a link can be followed, and then there is room for the route behind it. -/
theorem Room.follow (room : system.Room depth following links) (follows : system.Follows link found inside)
    (fewer : inside < links) :
    ∃ shallower, depth = shallower + 1 ∧ system.Room shallower (link :: following) inside := by
  have distinct : ((link :: following).map (Spot.place system.here)).Nodup := by
    rw [List.map_cons, List.nodup_cons]
    exact ⟨room.fresh follows fewer, room.distinct⟩
  have areLinks : ∀ place ∈ (link :: following).map (Spot.place system.here),
      ∃ target, system.root.at? place = some (.link target) := by
    have isLink {link found : Spot} {inside : Nat} (follows : system.Follows link found inside) :
        ∃ target, system.root.at? (link.place system.here) = some (.link target) := by
      obtain ⟨_, _, target, -, isLink, -⟩ := follows
      exact ⟨target, isLink⟩
    intro place member
    obtain ⟨other, isFollowed, rfl⟩ := List.mem_map.mp member
    rcases List.mem_cons.mp isFollowed with rfl | isFollowed
    · exact isLink follows
    · obtain ⟨_, _, otherFollows, -⟩ := room.longer other isFollowed
      exact isLink otherFollows
  -- The links that are followed are different links of the tree, so the depth is not used up by them.
  have few := Listing.length_le_linkCount distinct areLinks
  have enough := room.enough
  rw [List.length_map, List.length_cons] at few
  refine ⟨depth - 1, by omega, ?_, distinct, by rw [List.length_cons]; omega⟩
  intro other isFollowed
  rcases List.mem_cons.mp isFollowed with rfl | isFollowed
  · exact ⟨found, inside, follows, Nat.le_refl _⟩
  · obtain ⟨otherFound, otherInside, otherFollows, bound⟩ := room.longer other isFollowed
    exact ⟨otherFound, otherInside, otherFollows, by omega⟩

theorem Marks.open (marks : system.Marks trail following) (link : Spot) :
    system.Marks ((link, none) :: trail) (link :: following) where
  settled other found isThere := by
    by_cases same : link = other
    · rw [Trail.find?, if_pos same] at isThere
      cases isThere
    · rw [Trail.find?, if_neg same] at isThere
      exact marks.settled other found isThere
  following other isThere := by
    by_cases same : link = other
    · exact same ▸ List.mem_cons_self
    · rw [Trail.find?, if_neg same] at isThere
      exact List.mem_cons_of_mem _ (marks.following other isThere)

theorem Marks.close (marks : system.Marks trail (link :: following))
    (follows : system.Follows link found inside) :
    system.Marks ((link, some found) :: trail) following where
  settled other otherFound isThere := by
    by_cases same : link = other
    · rw [Trail.find?, if_pos same] at isThere
      cases isThere
      exact ⟨inside, same ▸ follows⟩
    · rw [Trail.find?, if_neg same] at isThere
      exact marks.settled other otherFound isThere
  following other isThere := by
    by_cases same : link = other
    · rw [Trail.find?, if_pos same] at isThere
      cases isThere
    · rw [Trail.find?, if_neg same] at isThere
      rcases List.mem_cons.mp (marks.following other isThere) with rfl | isFollowed
      · exact absurd rfl same
      · exact isFollowed

/-! ## Along a route -/

/-- A resolution along a route ends where the route does. -/
theorem Route.resolveStep (route : system.Route spot names last links)
    (marks : system.Marks trail following) (room : system.Room depth following links) :
    ∃ behind, system.resolveStep (system.resolveFrom depth) spot names trail = .ok (.found last behind) ∧
      system.Marks behind following := by
  -- At a link the route goes on twice, along its target and then behind it: the link is among those that
  -- are followed in the first part only, and is marked with where it leads in the second.
  induction route generalizing depth trail following with
  | arrived => exact ⟨trail, rfl, marks⟩
  | stay idle _ inductionHypothesis =>
    rw [resolveStep_idle idle]
    exact inductionHypothesis marks room
  | up _ inductionHypothesis =>
    rw [resolveStep_up]
    exact inductionHypothesis marks room
  | down isStep short notLink _ inductionHypothesis =>
    rw [resolveStep_isStep isStep, linkAt?_none short notLink]
    exact inductionHypothesis marks room
  | @link spot middle last name rest target inside links isStep short isLink along _ alongHypothesis
      inductionHypothesis =>
    have follows : system.Follows (spot.child name) middle inside := ⟨spot, name, target, rfl, isLink, along⟩
    have roomBehind : system.Room depth following links := room.mono (by omega)
    have linked : system.linkAt? (spot.child name) = some target := by
      rw [linkAt?_eq short, isLink]
      rfl
    rw [resolveStep_isStep isStep, linked]
    dsimp only
    cases known : trail.find? (spot.child name) with
    | some mark =>
      cases mark with
      | some found =>
        -- The link has been met before, and led to where it leads now.
        obtain ⟨_, knownFollows⟩ := marks.settled _ _ known
        obtain rfl := (follows.unique knownFollows rfl).2 rfl
        exact inductionHypothesis marks roomBehind
      | none =>
        -- A link that is being followed is not met again.
        have isFollowed := marks.following _ known
        exact absurd (List.mem_map_of_mem isFollowed) (room.fresh follows (by omega))
    | none =>
      obtain ⟨shallower, rfl, roomInside⟩ := room.follow follows (by omega)
      obtain ⟨inner, resolved, innerMarks⟩ := alongHypothesis (marks.open (spot.child name)) roomInside
      have followed : system.resolveFrom (shallower + 1) spot target ((spot.child name, none) :: trail) =
          .ok (.found middle inner) := resolved
      rw [followed]
      exact inductionHypothesis (innerMarks.close follows) roomBehind

/-! ## Canonical places -/

variable {path base : Path} {place : List Name}

/-- A path has a route to a place. -/
def Routed (system : System) (path : Path) (place : List Name) : Prop :=
  ∃ last links, system.Route (Spot.atHere.startOf path.text) (splitSlashes path.text) last links ∧
    last.place system.here = place

theorem Routed.resolveFrom (routed : system.Routed path place) :
    ∃ last trail, system.resolveFrom system.linkDepth .atHere path.text [] = .ok (.found last trail) ∧
      last.place system.here = place := by
  obtain ⟨last, links, route, isEnd⟩ := routed
  have marks : system.Marks [] [] := ⟨fun _ _ known => (nomatch known), fun _ known => (nomatch known)⟩
  obtain ⟨depth, deep⟩ : ∃ depth, system.linkDepth = depth + 1 := ⟨system.linkDepth - 1, rfl⟩
  have room : system.Room depth [] links := by
    refine ⟨by simp, List.nodup_nil, ?_⟩
    have many : system.root.linkCount ≤ system.root.linkCount * (system.here.length + 2) :=
      Nat.le_mul_of_pos_right _ (by omega)
    unfold linkDepth pathLimit at deep
    rw [List.length_nil]
    omega
  obtain ⟨trail, resolved, -⟩ := route.resolveStep marks room
  rw [deep]
  exact ⟨last, trail, resolved, isEnd⟩

/-- A path is resolved to the spot at which its resolution ends, or not at all. -/
theorem base_of_found
    (found : system.resolveFrom system.linkDepth .atHere path.text [] = .ok (.found last trail))
    (resolved : system.resolve path = .ok base) : base = .ofNames (last.place system.here) := by
  unfold resolve at resolved
  rw [found, ok_bind] at resolved
  dsimp only at resolved
  split at resolved
  · cases resolved
  · cases resolved
  · cases resolved
    rfl

/-- Where a path has a route, it is resolved to the end of the route or not at all. -/
theorem Routed.eq_of_resolve (routed : system.Routed path place) (resolved : system.resolve path = .ok base) :
    base = .ofNames place := by
  obtain ⟨last, trail, found, rfl⟩ := routed.resolveFrom
  exact base_of_found found resolved

/-- A path is resolved to where its resolution ends, if the system finds an entry along that path. -/
theorem resolve_of_found {reached : List Name}
    (found : system.resolveFrom system.linkDepth .atHere path.text [] = .ok (.found last trail))
    (walked : system.walk .existing (.ofNames (last.place system.here)) = .ok reached) :
    system.resolve path = .ok (.ofNames (last.place system.here)) := by
  unfold resolve
  rw [found, ok_bind]
  dsimp only [pathOf]
  rw [walked]
  rfl

/-- A path with a route to an entry that the system finds there is resolved. -/
theorem Routed.resolve_eq (routed : system.Routed path place) (reached : system.Leads (.ofNames place) place) :
    system.resolve path = .ok (.ofNames place) := by
  obtain ⟨last, trail, found, rfl⟩ := routed.resolveFrom
  exact resolve_of_found found (walk_existing_iff.mpr reached)

/-! ## Paths that have been read from a text -/

/-- The names of a path are pieces of a text. -/
def IsParsed (path : Path) : Prop :=
  ∀ name ∈ path.names, name ≠ [] ∧ '/' ∉ name

theorem isParsed_parse (text : List Char) : IsParsed (Path.parse text) := by
  intro name member
  have inText := List.mem_of_mem_filter member
  unfold namesIn at inText
  rw [List.mem_filter] at inText
  exact ⟨by simpa using inText.2, noSlash_of_mem_splitSlashes inText.1⟩

theorem filter_busy {names : List Name} (parsed : ∀ name ∈ names, name ≠ [] ∧ '/' ∉ name) :
    names.filter (fun name => !isIdle name) = names.filter (· != self) := by
  refine List.filter_congr fun name member => ?_
  rw [isIdle_eq]
  simp [(parsed name member).1]

theorem sameSteps_joined {names : List Name} (parsed : ∀ name ∈ names, name ≠ [] ∧ '/' ∉ name) :
    SameSteps names (splitSlashes (joined ['/'] names)) := by
  cases names with
  | nil => rfl
  | cons first rest =>
    rw [splitSlashes_joined (List.cons_ne_nil _ _) fun name member => (parsed name member).2, SameSteps,
      filter_busy parsed]

theorem sameSteps_text (parsed : IsParsed path) : SameSteps path.names (splitSlashes path.text) := by
  obtain ⟨anchor, names⟩ := path
  have steps := sameSteps_joined parsed
  cases anchor with
  | here =>
    cases names with
    | nil => rfl
    | cons first rest => exact steps
  | root => exact steps
  | doubleRoot => exact steps

theorem place_start (parsed : IsParsed path) :
    (Spot.atHere.startOf path.text).place system.here = system.startOf path := by
  obtain ⟨anchor, names⟩ := path
  rw [Spot.place_startOf]
  cases anchor with
  | here =>
    have relative : (Path.mk .here names).text.head? ≠ some '/' := by
      cases names with
      | nil => decide
      | cons first rest =>
        obtain ⟨named, plain⟩ := parsed first List.mem_cons_self
        obtain ⟨c, name, rfl⟩ := List.exists_cons_of_ne_nil named
        rw [List.mem_cons, not_or] at plain
        cases rest <;> simpa [Path.text, joined, Anchor.text] using Ne.symm plain.1
    unfold Files.startOf
    rw [if_neg (by simpa using relative)]
    simp [Spot.place, Spot.atHere, startOf]
  | root => rfl
  | doubleRoot => rfl

/-- A route ends where the path leads. -/
theorem Routed.place_eq {reached : List Name} (routed : system.Routed path place) (parsed : IsParsed path)
    (leads : system.Leads path reached) : place = reached := by
  obtain ⟨last, links, route, rfl⟩ := routed
  have way := leads.way
  -- The route has met the walk where nothing is left of either.
  rw [← List.append_nil path.names, ← place_start parsed] at way
  obtain ⟨fewer, -, behind⟩ := route.meets (sameSteps_text parsed) way
  cases behind
  rfl

theorem Routed.isPlain (routed : system.Routed path place) (here : system.IsPlain system.here) :
    system.IsPlain place := by
  obtain ⟨last, links, route, rfl⟩ := routed
  refine route.plain (fun name => noSlash_of_mem_splitSlashes) ?_
  rw [Spot.place_startOf]
  unfold Files.startOf
  split
  · exact IsPlain.root
  · simpa [Spot.place, Spot.atHere] using here

/-! ## Walks to plain places -/

/-- A walk to a plain place goes down name by name. -/
theorem Way.eq_of_plain {start reached : List Name} (way : system.Way links start names reached)
    (plain : system.IsPlain (start ++ names)) : reached = start ++ names := by
  induction way with
  | arrived => simp
  | stay => exact absurd rfl (plain.areNames self (by simp)).notSelf
  | up => exact absurd rfl (plain.areNames parent (by simp)).notParent
  | down _ _ _ _ _ inductionHypothesis =>
    rw [List.append_cons] at plain ⊢
    exact inductionHypothesis plain
  | link _ _ found =>
    rw [List.append_cons] at plain
    exact absurd found (plain.noLink _ (List.prefix_append _ _) _)

/-- A plain place that is a directory for the system is one of the tree. -/
theorem IsPlain.of_isDirectory? (plain : system.IsPlain place)
    (isDirectory : system.isDirectory? (.ofNames place) = .ok true) :
    system.Leads (.ofNames place) place ∧ system.HasDirectory place := by
  unfold isDirectory? at isDirectory
  cases found : system.nodeAt (.ofNames place) with
  | error e =>
    rw [found] at isDirectory
    cases e with
    | refused cause text => cases cause <;> cases isDirectory
    | _ => cases isDirectory
  | ok node =>
    rw [found] at isDirectory
    obtain ⟨reached, leads, isThere⟩ := nodeAt_iff.mp found
    obtain rfl : reached = place := leads.way.eq_of_plain plain
    refine ⟨leads, ?_⟩
    cases node with
    | directory children => exact ⟨children, isThere⟩
    | _ => cases isDirectory

/-! ## Routes to plain places -/

theorem byteLength_joined_le_append (front back : List Name) :
    Text.Utf8.byteLength (joined ['/'] front) ≤ Text.Utf8.byteLength (joined ['/'] (front ++ back)) := by
  induction back using List.reverseRecOn with
  | nil => simp
  | append_singleton back last inductionHypothesis =>
    obtain ⟨more, split⟩ := joined_append_singleton (front ++ back) last
    rw [← List.append_assoc, split, byteLength_append]
    omega

theorem mem_text_of_mem {names : List Name} {name : Name} {c : Char} (member : name ∈ names)
    (inName : c ∈ name) : c ∈ joined ['/'] names := by
  induction names with
  | nil => cases member
  | cons first rest inductionHypothesis =>
    cases rest with
    | nil =>
      rw [List.mem_singleton.mp member] at inName
      exact inName
    | cons next rest =>
      rw [joined_cons_cons, List.mem_append]
      rcases List.mem_cons.mp member with rfl | member
      · exact .inl (List.mem_append_left _ inName)
      · exact .inr (inductionHypothesis member)

/-- A plain place has a route to itself, as long as its text is one that the system accepts. -/
theorem IsPlain.routed (plain : system.IsPlain place) (fits : (Path.ofNames place).Fits) :
    system.Routed (.ofNames place) place := by
  have down (front back : List Name) (split : front ++ back = place) :
      system.Route ⟨.root, front⟩ back ⟨.root, place⟩ 0 := by
    induction back generalizing front with
    | nil =>
      rw [← split, List.append_nil]
      exact .arrived
    | cons name rest inductionHypothesis =>
      have member : name ∈ place := split ▸ List.mem_append_right _ List.mem_cons_self
      have isName := plain.areNames name member
      have isFront : front ++ [name] <+: place := ⟨rest, by rw [← split]; simp⟩
      refine .down ⟨?_, isName.notParent, ?_⟩ ?_ (plain.noLink _ isFront) ?_
      · simp [isIdle, isName.some, isName.notSelf]
      · have noNull := fits.noNull
        rw [text_ofNames] at noNull
        simp only [List.contains_eq_mem, decide_eq_false_iff_not] at noNull ⊢
        exact fun inName => noNull (List.mem_cons_of_mem _ (mem_text_of_mem member inName))
      · have short := fits.short
        obtain ⟨back, rfl⟩ := isFront
        have shorter := byteLength_joined_le_append (front ++ [name]) back
        rw [text_ofNames, ← List.singleton_append, byteLength_append] at short
        change Text.Utf8.byteLength (['/'] ++ joined ['/'] (front ++ [name])) < pathLimit
        rw [byteLength_append]
        omega
      · exact inductionHypothesis (front ++ [name]) (by rw [← split]; simp)
  have pieces : splitSlashes (Path.ofNames place).text = [] :: splitSlashes (joined ['/'] place) := rfl
  refine ⟨⟨.root, place⟩, 0, ?_, rfl⟩
  rw [pieces]
  refine .stay rfl ?_
  cases place with
  | nil => exact .stay rfl .arrived
  | cons first rest =>
    rw [splitSlashes_joined (List.cons_ne_nil _ _) fun name member => (plain.areNames name member).noSlash]
    exact down [] (first :: rest) rfl

end System
end ProjectGauge.Files
