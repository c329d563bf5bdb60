import ProjectGauge.Tally
import ProjectGauge.Proofs.Json.Members
import Mathlib.Algebra.Ring.Int.Defs

/-!
# What a tally knows

A tally that additions have been made to knows of each package the sum of the counts, and the versions
and the directories without repetitions, in the order in which they were first seen.

* `lookup_ofAdditions` is the entry of a package in closed form.
-/

namespace ProjectGauge.Tally

/-- A dependency with the directory that it has been found in. -/
abbrev Addition := Dependency × String

/-- The tally that additions come to, one after the other. -/
def ofAdditions (additions : List Addition) : Tally :=
  additions.foldl (fun tally addition => tally.add addition.1 addition.2) []

/-- The additions of one package. -/
def additionsOf (name : String) (additions : List Addition) : List Addition :=
  additions.filter fun addition => addition.1.name = name

/-- What additions of one package come to: the sum of the counts, and the distinct versions and
directories in the order in which they are first seen. -/
def gathered (additions : List Addition) : TallyEntry :=
  { count := (additions.map fun addition => addition.1.count).sum
    versions := (additions.map fun addition => addition.1.version).eraseDups
    directories := (additions.map Prod.snd).eraseDups }

/-! ## One addition -/

theorem insertNew_eraseDups [DecidableEq α] (item : α) (items : List α) :
    insertNew item items.eraseDups = (items ++ [item]).eraseDups := by
  unfold insertNew
  rw [List.eraseDups_append]
  by_cases known : item ∈ items
  · simp [known, List.removeAll]
  · simp [known, List.removeAll, List.eraseDups_cons]

theorem gathered_append (additions : List Addition) (addition : Addition) :
    (gathered additions).add addition.1 addition.2 = gathered (additions ++ [addition]) := by
  simp [gathered, TallyEntry.add, insertNew_eraseDups]

theorem gathered_nil : gathered [] = .empty := rfl

theorem ofAdditions_append (additions : List Addition) (addition : Addition) :
    ofAdditions (additions ++ [addition]) = (ofAdditions additions).add addition.1 addition.2 := by
  simp [ofAdditions]

/-! ## All additions -/

theorem additionsOf_append_same (additions : List Addition) (addition : Addition) :
    additionsOf addition.1.name (additions ++ [addition]) =
      additionsOf addition.1.name additions ++ [addition] := by
  simp [additionsOf]

theorem additionsOf_append_other {name : String} (additions : List Addition) {addition : Addition}
    (different : addition.1.name ≠ name) :
    additionsOf name (additions ++ [addition]) = additionsOf name additions := by
  simp [additionsOf, different]

/-- The entry of a package is what its additions come to; a package without additions has none. -/
theorem lookup_ofAdditions (name : String) (additions : List Addition) :
    Json.lookup name (ofAdditions additions) =
      if additionsOf name additions = [] then none
      else some (gathered (additionsOf name additions)) := by
  -- Each addition goes behind those before it, so the induction takes the last one off.
  induction reversed : additions.reverse generalizing additions with
  | nil =>
    rw [List.reverse_eq_nil_iff] at reversed
    subst reversed
    rfl
  | cons addition earlier inductionHypothesis =>
    have split : additions = earlier.reverse ++ [addition] := by
      rw [← List.reverse_reverse additions, reversed, List.reverse_cons]
    subst split
    have known := inductionHypothesis earlier.reverse (List.reverse_reverse earlier)
    rw [ofAdditions_append, add, Json.lookup_put]
    by_cases same : addition.1.name = name
    · subst same
      rw [if_pos rfl, additionsOf_append_same, entry, known, ← gathered_append]
      split
      · rename_i none
        simp [none, gathered_nil]
      · simp
    · rw [if_neg same, additionsOf_append_other _ same, known]

theorem nodup_names_ofAdditions (additions : List Addition) :
    ((ofAdditions additions).map Prod.fst).Nodup := by
  have kept : ∀ tally : Tally, (tally.map Prod.fst).Nodup →
      ((additions.foldl (fun tally addition => tally.add addition.1 addition.2) tally).map
        Prod.fst).Nodup := by
    induction additions with
    | nil => exact fun _ distinct => distinct
    | cons addition rest inductionHypothesis =>
      intro tally distinct
      exact inductionHypothesis _ (Json.nodup_names_put _ _ distinct)
  exact kept [] List.nodup_nil

/-- Every entry of a tally is what the additions of its package come to. -/
theorem eq_gathered_of_mem {name : String} {entry : TallyEntry} {additions : List Addition}
    (member : (name, entry) ∈ ofAdditions additions) :
    entry = gathered (additionsOf name additions) := by
  have found := Json.lookup_of_mem (nodup_names_ofAdditions additions) member
  rw [lookup_ofAdditions] at found
  split at found
  · cases found
  · exact (Option.some.inj found).symm

end ProjectGauge.Tally
