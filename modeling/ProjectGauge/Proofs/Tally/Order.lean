import ProjectGauge.Proofs.Tally
import Mathlib.Algebra.BigOperators.Group.List.Basic

/-!
# The order of additions

An addition changes what a tally knows of one name and nothing else.  The names stand in the order in which
they were first added under, and the order of the additions matters for nothing but the order of what has
been gathered.

* `IsTallyOf` says what a tally knows after additions.
* `isTallyOf_ofNamed` says it of every sequence of additions, and of every other order of them.
-/

namespace ProjectGauge

/-- Two entries with the same count, versions and directories, the latter in any order. -/
structure TallyEntry.Alike (first second : TallyEntry) : Prop where
  count : first.count = second.count
  versions : first.versions.Perm second.versions
  directories : first.directories.Perm second.directories

namespace Tally

/-! ## Additions under a name -/

/-- An addition of a dependency under a name, which need not be the name of the dependency. -/
structure NamedAddition where
  name : String
  dependency : Dependency
  directory : String

/-- The addition of the dependency as one of the name that it is added under. -/
def NamedAddition.addition (named : NamedAddition) : Addition :=
  ({ named.dependency with name := named.name }, named.directory)

/-- A tally with a dependency added under a name. -/
def addUnder (tally : Tally) (named : NamedAddition) : Tally :=
  Json.put named.name ((tally.entry named.name).add named.dependency named.directory) tally

/-- The tally that additions under names come to. -/
def ofNamed (additions : List NamedAddition) : Tally :=
  additions.foldl addUnder []

/-- This is the addition of a dependency of that name. -/
theorem addUnder_eq_add (tally : Tally) (named : NamedAddition) :
    tally.addUnder named = tally.add named.addition.1 named.addition.2 := rfl

theorem ofNamed_eq_ofAdditions (additions : List NamedAddition) :
    ofNamed additions = ofAdditions (additions.map NamedAddition.addition) := by
  have same : addUnder = fun tally named => tally.add named.addition.1 named.addition.2 :=
    funext fun tally => funext fun named => addUnder_eq_add tally named
  rw [ofNamed, same, ofAdditions, List.foldl_map]

theorem lookup_addUnder_of_ne {tally : Tally} {named : NamedAddition} {other : String}
    (different : other ≠ named.name) :
    Json.lookup other (tally.addUnder named) = Json.lookup other tally :=
  (Json.lookup_put _ _ _ _).trans (if_neg different.symm)

/-! ## What a tally knows -/

/-- The additions under a name. -/
def under (name : String) (additions : List NamedAddition) : List NamedAddition :=
  additions.filter fun named => named.name = name

/-- What additions under one name come to: the sum of their counts, and their distinct versions and
directories in the order in which they were first seen. -/
def gatheredUnder (additions : List NamedAddition) : TallyEntry :=
  { count := (additions.map fun named => named.dependency.count).sum
    versions := (additions.map fun named => named.dependency.version).eraseDups
    directories := (additions.map NamedAddition.directory).eraseDups }

theorem additionsOf_named (name : String) (additions : List NamedAddition) :
    additionsOf name (additions.map NamedAddition.addition) =
      (under name additions).map NamedAddition.addition := by
  rw [additionsOf, under, List.filter_map]
  rfl

theorem gathered_named (additions : List NamedAddition) :
    gathered (additions.map NamedAddition.addition) = gatheredUnder additions := by
  simp only [gathered, gatheredUnder, List.map_map]
  rfl

theorem lookup_ofNamed (name : String) (additions : List NamedAddition) :
    Json.lookup name (ofNamed additions) =
      if under name additions = [] then none else some (gatheredUnder (under name additions)) := by
  rw [ofNamed_eq_ofAdditions, lookup_ofAdditions, additionsOf_named, gathered_named]
  simp only [List.map_eq_nil_iff]

theorem names_ofAdditions (additions : List Addition) :
    (ofAdditions additions).map Prod.fst = (additions.map fun addition => addition.1.name).eraseDups := by
  induction additions using List.reverseRecOn with
  | nil => rfl
  | append_singleton additions addition inductionHypothesis =>
    -- The last addition puts its name behind the others, if it is new.
    rw [ofAdditions_append, add, Json.names_put, inductionHypothesis, List.map_append, List.map_singleton,
      Json.eraseDups_concat]

theorem names_ofNamed (additions : List NamedAddition) :
    (ofNamed additions).map Prod.fst = (additions.map NamedAddition.name).eraseDups := by
  rw [ofNamed_eq_ofAdditions, names_ofAdditions, List.map_map]
  rfl

/-! ## Other orders -/

theorem eraseDups_perm {names others : List String} (same : names.Perm others) :
    names.eraseDups.Perm others.eraseDups := by
  rw [List.perm_ext_iff_of_nodup (Json.nodup_eraseDups names) (Json.nodup_eraseDups others)]
  intro name
  rw [List.mem_eraseDups, List.mem_eraseDups, same.mem_iff]

theorem gatheredUnder_alike {additions others : List NamedAddition} (same : additions.Perm others) :
    (gatheredUnder additions).Alike (gatheredUnder others) where
  count := (same.map _).sum_eq
  versions := eraseDups_perm (same.map _)
  directories := eraseDups_perm (same.map _)

theorem lookup_ofNamed_perm {additions others : List NamedAddition} (same : additions.Perm others)
    (name : String) :
    Option.Rel TallyEntry.Alike (Json.lookup name (ofNamed additions)) (Json.lookup name (ofNamed others)) := by
  have sameUnder : (under name additions).Perm (under name others) := same.filter _
  rw [lookup_ofNamed, lookup_ofNamed]
  -- The same names are without additions in both orders.
  by_cases none : under name additions = []
  · have noneOther : under name others = [] := List.perm_nil.mp (none ▸ sameUnder).symm
    rw [if_pos none, if_pos noneOther]
    exact .none
  · have someOther : under name others ≠ [] := fun nothing => none (List.perm_nil.mp (nothing ▸ sameUnder))
    rw [if_neg none, if_neg someOther]
    exact .some (gatheredUnder_alike sameUnder)

/-! ## All additions -/

/-- What holds of the tally that additions come to: its names stand in the order of their first additions,
and each has the entry that the additions under it come to. -/
structure IsTallyOf (additions : List NamedAddition) (tally : Tally) : Prop where
  names : tally.map Prod.fst = (additions.map NamedAddition.name).eraseDups
  entries : ∀ name, Json.lookup name tally =
    if under name additions = [] then none else some (gatheredUnder (under name additions))

/-- Every sequence of additions comes to a tally that knows exactly what has been added under each name.  A
further addition leaves the entries of all other names as they are, and in any other order the additions come
to the same counts and to the same versions and directories of every name. -/
theorem isTallyOf_ofNamed (additions : List NamedAddition) :
    IsTallyOf additions (ofNamed additions) ∧
      (∀ further other, other ≠ further.name →
        Json.lookup other (ofNamed (additions ++ [further])) = Json.lookup other (ofNamed additions)) ∧
      ∀ others, additions.Perm others → ∀ name, Option.Rel TallyEntry.Alike
        (Json.lookup name (ofNamed additions)) (Json.lookup name (ofNamed others)) := by
  refine ⟨⟨names_ofNamed additions, fun name => lookup_ofNamed name additions⟩, ?_, ?_⟩
  · intro further other different
    have last : ofNamed (additions ++ [further]) = (ofNamed additions).addUnder further := by
      simp [ofNamed]
    rw [last]
    exact lookup_addUnder_of_ne different
  · intro others same name
    exact lookup_ofNamed_perm same name

/-- Additions of two packages, one of which has been found in two versions and two directories. -/
def sampleAdditions : List NamedAddition :=
  [⟨"b", ⟨"b", "4", 5⟩, "/p"⟩, ⟨"a", ⟨"a", "1", 4⟩, "/p"⟩, ⟨"a", ⟨"a", "2", 0⟩, "/q"⟩, ⟨"a", ⟨"a", "1", 3⟩, "/q"⟩]

/-- From the last addition to the first, the same is known of `a`, in another order. -/
theorem isTallyOf_ofNamed_reversed :
    IsTallyOf sampleAdditions (ofNamed sampleAdditions) ∧
      Json.lookup "b" (ofNamed (sampleAdditions ++ [⟨"a", ⟨"c", "3", 9⟩, "/r"⟩])) = some ⟨5, ["4"], ["/p"]⟩ ∧
      sampleAdditions.Perm sampleAdditions.reverse ∧
      Json.lookup "a" (ofNamed sampleAdditions) = some ⟨7, ["1", "2"], ["/p", "/q"]⟩ ∧
      Json.lookup "a" (ofNamed sampleAdditions.reverse) = some ⟨7, ["1", "2"], ["/q", "/p"]⟩ ∧
      TallyEntry.Alike ⟨7, ["1", "2"], ["/p", "/q"]⟩ ⟨7, ["1", "2"], ["/q", "/p"]⟩ := by
  obtain ⟨isTally, kept, reordered⟩ := isTallyOf_ofNamed sampleAdditions
  have known : Json.lookup "a" (ofNamed sampleAdditions) = some ⟨7, ["1", "2"], ["/p", "/q"]⟩ := by
    decide +kernel
  have knownReversed : Json.lookup "a" (ofNamed sampleAdditions.reverse) =
      some ⟨7, ["1", "2"], ["/q", "/p"]⟩ := by decide +kernel
  have others : Json.lookup "b" (ofNamed sampleAdditions) = some ⟨5, ["4"], ["/p"]⟩ := by decide +kernel
  have same : sampleAdditions.Perm sampleAdditions.reverse := (List.reverse_perm _).symm
  have alike := reordered _ same "a"
  rw [known, knownReversed] at alike
  cases alike with
  | some alike => exact ⟨isTally, (kept _ "b" (by decide)).trans others, same, known, knownReversed, alike⟩

end Tally
end ProjectGauge
