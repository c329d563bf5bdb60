import ProjectGauge.Environment.Typed
import ProjectGauge.Proofs.Files.Trace
import Mathlib.Data.List.TakeWhile

/-!
# Typed paths

A typed path is resolved to the place of an entry that is behind no link, whatever has been typed.  Behind a
tilde there are only names below the home directory.  And a place that is typed again is resolved to itself.

* `parse_below`: what is put below a directory are its names.
* `place_tilde` is the place of a path with a tilde.
* `place_settled` says what the place of a typed path is like.
-/

namespace ProjectGauge

open Files

/-! ## Texts -/

theorem Text.stripBlanks_eq {text : List Char} (front : ∀ c, text.head? = some c → Text.isBlank c = false)
    (back : ∀ c, text.getLast? = some c → Text.isBlank c = false) : Text.stripBlanks text = text := by
  have kept {other : List Char} (visible : ∀ c, other.head? = some c → Text.isBlank c = false) :
      other.dropWhile Text.isBlank = other := by
    cases other with
    | nil => rfl
    | cons c rest => exact List.dropWhile_cons_of_neg (by simp [visible c rfl])
  unfold Text.stripBlanks
  rw [kept front, kept fun c isHead => back c (by rw [← List.head?_reverse]; exact isHead),
    List.reverse_reverse]

theorem Files.namesIn_append (front back : List Char) :
    namesIn (front ++ '/' :: back) = namesIn front ++ namesIn back := by
  rw [namesIn, splitSlashes_append, List.filter_append]
  rfl

/-- What stands behind a text does not change its anchor, unless slashes come together. -/
theorem Files.anchorOf_append {front back : List Char} (nonempty : front ≠ [])
    (apart : front.getLast? = some '/' → back.head? ≠ some '/') : anchorOf (front ++ back) = anchorOf front := by
  have slashes : (front ++ back).takeWhile (· == '/') = front.takeWhile (· == '/') := by
    rw [List.takeWhile_append]
    split
    · -- The text consists of slashes, so it ends with one.
      rename_i whole
      have same : front.takeWhile (· == '/') = front := (List.takeWhile_prefix _).eq_of_length whole
      have isLast : front.getLast? = some '/' := by
        have isSlash := List.takeWhile_eq_self_iff.mp same _ (List.getLast_mem nonempty)
        rw [List.getLast?_eq_some_getLast nonempty, beq_iff_eq.mp isSlash]
      have none : back.takeWhile (· == '/') = [] := by
        cases back with
        | nil => rfl
        | cons c back => exact List.takeWhile_cons_of_neg (by simpa using apart isLast)
      rw [none, List.append_nil, same]
    · rfl
  unfold anchorOf
  rw [slashes]

namespace Environment

variable {environment : Environment} {system : System} {raw text rest : List Char} {home : String} {path : Path}

theorem parse_below {directory : List Char} (nonempty : directory ≠ []) (notSlash : rest.head? ≠ some '/') :
    Path.parse (below directory rest) = (Path.parse directory).below (Path.parse rest).names := by
  unfold below
  split
  · rename_i isLast
    have anchor : anchorOf (directory ++ rest) = anchorOf directory := anchorOf_append nonempty fun _ => notSlash
    obtain ⟨front, rfl⟩ := List.getLast?_eq_some_iff.mp (by simpa using isLast)
    have names : namesIn (front ++ ['/'] ++ rest) = namesIn (front ++ ['/']) ++ namesIn rest := by
      rw [List.append_assoc, List.singleton_append, namesIn_append, namesIn_append]
      simp [namesIn, splitSlashes, Text.pieces]
    rw [Path.parse, anchor, names, List.filter_append]
    rfl
  · rename_i notLast
    have anchor : anchorOf (directory ++ '/' :: rest) = anchorOf directory :=
      anchorOf_append nonempty fun isLast => absurd isLast (by simpa using notLast)
    rw [Path.parse, anchor, namesIn_append, List.filter_append]
    rfl

theorem head?_dropWhile_isAnySlash (rest : List Char) : (rest.dropWhile isAnySlash).head? ≠ some '/' := by
  intro isHead
  have kept := List.head?_dropWhile_not isAnySlash rest
  rw [isHead] at kept
  cases kept

theorem given?_ne_nil {name : String} (given : environment.given? name = some home) : home.toList ≠ [] := by
  unfold given? at given
  obtain ⟨-, nonempty⟩ := Option.filter_eq_some_iff.mp given
  intro isNil
  rw [String.toList_eq_nil_iff.mp isNil] at nonempty
  cases nonempty

/-! ## Texts that are typed -/

theorem typedText_tilde (isHome : environment.given? homeVariable = some home)
    (isTyped : Text.stripBlanks raw = tilde :: rest) :
    environment.typedText raw = .ok (below home.toList (rest.dropWhile isAnySlash)) := by
  have first : homeVariables.findSome? environment.given? = some home := by
    rw [homeVariables, List.findSome?_cons, isHome]
  rw [typedText, isTyped]
  dsimp only
  rw [if_pos (by decide), typedHome, first]
  rfl

/-- Behind a tilde, names below the home directory are typed, however many slashes stand between. -/
theorem place_tilde (isHome : environment.given? homeVariable = some home)
    (isTyped : Text.stripBlanks raw = tilde :: rest) (system : System) :
    environment.place system raw =
      (system.resolve ((Path.parse home.toList).below
        (Path.parse (rest.dropWhile isAnySlash)).names)).mapError .files := by
  rw [place, typedText_tilde isHome isTyped, mapError_ok, ok_bind,
    parse_below (given?_ne_nil isHome) (head?_dropWhile_isAnySlash rest)]

theorem place_ok_iff : environment.place system raw = .ok path ↔
    ∃ text, environment.typedText raw = .ok text ∧ system.resolve (Path.parse text) = .ok path := by
  unfold place
  simp only [bind_eq_ok, mapError_eq_ok]

theorem typedText_ofNames (environment : Environment) {names : List Name}
    (visible : ∀ c, (Path.ofNames names).text.getLast? = some c → Text.isBlank c = false) :
    environment.typedText (Path.ofNames names).text = .ok (Path.ofNames names).text := by
  have stripped : Text.stripBlanks (Path.ofNames names).text = (Path.ofNames names).text :=
    Text.stripBlanks_eq (by rintro c ⟨⟩; decide) visible
  rw [typedText, stripped, text_ofNames]
  exact if_neg (by decide)

/-! ## Places -/

theorem isKept_of_isAccepted {name : Name} (accepted : IsAccepted name) : System.IsKept name :=
  ⟨accepted.isName, by simpa using accepted.noNull⟩

/-- In a tree with proper names and a working directory in it, what has been typed is resolved, if it is and
no loop of links is met, to a path from the root whose names are names of entries.  Behind a tilde, that is
the path of the names below the home directory.  Unless a path of the system's limit is met on the way, no
part of the path is a link, and what is typed like that is resolved to the same path, as long as it does not
end with a blank. -/
theorem place_settled (isHome : environment.given? homeVariable = some home) (named : system.root.Named)
    (inTree : system.HasDirectory system.here) (typed : environment.typedText raw = .ok text)
    (unlooped : system.Unlooped (Path.parse text)) (isPlace : environment.place system raw = .ok path) :
    ∃ names, path = .ofNames names ∧ (∀ name ∈ names, IsName name) ∧
      (∀ rest, Text.stripBlanks raw = tilde :: rest →
        system.resolve ((Path.parse home.toList).below (Path.parse (rest.dropWhile isAnySlash)).names) = .ok path) ∧
      (¬ system.Overlong (Spot.atHere.startOf (Path.parse text).text) (splitSlashes (Path.parse text).text) →
        (∀ front, front <+: names → ∀ target, system.at? front ≠ some (.link target)) ∧
        ((∀ c, path.text.getLast? = some c → Text.isBlank c = false) →
          environment.place system path.text = .ok path)) := by
  obtain ⟨same, typedToo, resolved⟩ := place_ok_iff.mp isPlace
  cases typed.symm.trans typedToo
  -- The end of the trace is the place, whose names come from the working directory or from the way.
  obtain ⟨last, rfl, trace⟩ := unlooped.trace resolved
  obtain ⟨children, isThere⟩ := id inTree
  have hereKept : ∀ name ∈ system.here, System.IsKept name := fun name member =>
    isKept_of_isAccepted (named.of_at? isThere name member)
  have kept : ∀ name ∈ last.place system.here, System.IsKept name := by
    refine trace.areKept (fun name => noSlash_of_mem_splitSlashes) ?_
    rw [Spot.place_startOf]
    unfold Files.startOf
    split
    · simp
    · simpa [Spot.place, Spot.atHere] using hereKept
  refine ⟨_, rfl, fun name member => (kept name member).isName, ?_, ?_⟩
  · intro rest isTyped
    rw [place_tilde isHome isTyped system, mapError_eq_ok] at isPlace
    exact isPlace
  · intro short
    -- Without a path that is too long all links have been seen, so none is left on the place.
    obtain ⟨links, route⟩ := trace.route short
    have routed : system.Routed (Path.parse text) (last.place system.here) := ⟨last, links, route, rfl⟩
    have plain := routed.isPlain (inTree.isPlain fun name member => (hereKept name member).isName)
    refine ⟨plain.noLink, fun visible => place_ok_iff.mpr ⟨_, environment.typedText_ofNames visible, ?_⟩⟩
    rw [parse_text plain.areNames]
    exact unlooped.resolve_of_plain resolved plain fun name member => (kept name member).noNull

end Environment

/-! ## A sample -/

/-- A directory and a link to it, in the working directory. -/
def settledTree : System :=
  ⟨.directory ['w'] (.directory ['r'] .nil (.link ['l'] ['r'] .nil)) .nil, [['w']]⟩

/-- The link is the home directory. -/
def homeAtLink : Environment :=
  ⟨[(homeVariable, "/w/l")], [], "/"⟩

theorem settledTree_named : settledTree.root.Named := by
  decide

theorem settledTree_route :
    settledTree.Route .atRoot [[], ['w'], ['l'], ['x']] ⟨.root, [['w'], ['r'], ['x']]⟩ 1 := by
  have isLink : settledTree.at? [['w'], ['l']] = some (.link ['r']) := rfl
  have along : settledTree.Route ⟨.root, [['w']]⟩ [['r']] ⟨.root, [['w'], ['r']]⟩ 0 :=
    .down ⟨rfl, by decide, by decide⟩ (by decide) (fun _ => nofun) .arrived
  have behind : settledTree.Route ⟨.root, [['w'], ['r']]⟩ [['x']] ⟨.root, [['w'], ['r'], ['x']]⟩ 0 :=
    .down ⟨rfl, by decide, by decide⟩ (by decide) (fun _ => nofun) .arrived
  exact .stay rfl (.down ⟨rfl, by decide, by decide⟩ (by decide) (fun _ => nofun)
    (.link ⟨rfl, by decide, by decide⟩ (by decide) isLink along behind))

/-- Below the home directory something is typed that is not there. -/
theorem place_settled_missing :
    homeAtLink.place settledTree "~//x".toList = .ok (.ofNames [['w'], ['r'], ['x']]) ∧
      (∀ front, front <+: [['w'], ['r'], ['x']] → ∀ target, settledTree.at? front ≠ some (.link target)) ∧
      settledTree.resolve ((Path.parse "/w/l".toList).below [['x']]) = .ok (.ofNames [['w'], ['r'], ['x']]) ∧
      homeAtLink.place settledTree "/w/r/x".toList = .ok (.ofNames [['w'], ['r'], ['x']]) := by
  have isPlace : homeAtLink.place settledTree "~//x".toList = .ok (.ofNames [['w'], ['r'], ['x']]) := by
    decide +kernel
  have typed : homeAtLink.typedText "~//x".toList = .ok "/w/l/x".toList := by decide +kernel
  have unlooped : settledTree.Unlooped (Path.parse "/w/l/x".toList) := ⟨_, _, rfl⟩
  have isHome : homeAtLink.given? homeVariable = some "/w/l" := by decide +kernel
  obtain ⟨names, same, -, below, settled⟩ :=
    Environment.place_settled isHome settledTree_named ⟨_, rfl⟩ typed unlooped isPlace
  cases same
  obtain ⟨noLink, again⟩ := settled settledTree_route.not_overlong
  exact ⟨isPlace, noLink, below "//x".toList (by decide +kernel), again (by rintro c ⟨⟩; decide)⟩

/-- The way up to the root, as often as makes a path too long for the system, and down to the link. -/
def longSpelling : List Char :=
  (List.replicate 1399 "../".toList).flatten ++ "../w/l".toList

/-- A relative path that is too long for the system is not freed of its links, and the place of its place is
another one. -/
theorem place_of_long_spelling :
    homeAtLink.given? homeVariable = some "/w/l" ∧ settledTree.Unlooped (Path.parse longSpelling) ∧
      homeAtLink.place settledTree longSpelling = .ok (.ofNames [['w'], ['l']]) ∧
      settledTree.at? [['w'], ['l']] = some (.link ['r']) ∧
      homeAtLink.place settledTree (Path.ofNames [['w'], ['l']]).text = .ok (.ofNames [['w'], ['r']]) := by
  have found : settledTree.resolveFrom settledTree.linkDepth .atHere (Path.parse longSpelling).text [] =
      .ok (.found ⟨.above 1400, [['w'], ['l']]⟩ []) := by decide +kernel
  have typed : homeAtLink.typedText longSpelling = .ok longSpelling := by
    have stripped : Text.stripBlanks longSpelling = longSpelling := by
      refine Text.stripBlanks_eq (by rintro c ⟨⟩; decide) ?_
      rw [longSpelling, List.getLast?_append]
      rintro c ⟨⟩
      decide
    rw [Environment.typedText, stripped]
    rfl
  have walked : settledTree.walk .existing (.ofNames [['w'], ['l']]) = .ok [['w'], ['r']] := rfl
  have isPlace : homeAtLink.place settledTree longSpelling = .ok (.ofNames [['w'], ['l']]) :=
    Environment.place_ok_iff.mpr ⟨_, typed, System.resolve_of_found found walked⟩
  exact ⟨by decide +kernel, ⟨_, _, found⟩, isPlace, rfl, by decide +kernel⟩

end ProjectGauge
