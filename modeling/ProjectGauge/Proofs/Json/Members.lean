import ProjectGauge.Json.Value
import Mathlib.Data.List.Induction
import Mathlib.Data.List.Nodup

/-!
# Tables by name

`Json.put` changes what `Json.lookup` finds under one name, and keeps the names of a table apart.  Names
that are put one after the other stand in the order of their first occurrences, as `List.eraseDups` has
them.

* `lookup_put` and `names_put` say what one change does.
* `pairwise_eraseDups`: names without repetitions stand in the order of their first occurrences.
* `IsLast.lookup_merge` and `names_merge` say what a table has that another one is laid over.
-/

namespace ProjectGauge.Json

variable {α : Type}

theorem lookup_put (name other : String) (value : α) (members : List (String × α)) :
    lookup other (put name value members) = if name = other then some value else lookup other members := by
  induction members with
  | nil => rfl
  | cons member rest inductionHypothesis =>
    obtain ⟨key, old⟩ := member
    simp only [put]
    by_cases same : key = name
    · subst same
      by_cases found : key = other <;> simp [lookup, found]
    · -- The entry stays where it is, and the change is made behind it.
      rw [if_neg same]
      simp only [lookup, inductionHypothesis]
      by_cases found : key = other
      · subst found
        simp [Ne.symm same]
      · simp [found]

theorem lookup_put_self (name : String) (value : α) (members : List (String × α)) :
    lookup name (put name value members) = some value := by
  rw [lookup_put, if_pos rfl]

theorem mem_of_lookup {name : String} {value : α} {members : List (String × α)}
    (found : lookup name members = some value) : (name, value) ∈ members := by
  induction members with
  | nil => simp [lookup] at found
  | cons member rest inductionHypothesis =>
    obtain ⟨key, other⟩ := member
    simp only [lookup] at found
    split at found
    · rename_i same
      cases same
      cases found
      exact List.mem_cons_self
    · exact List.mem_cons_of_mem _ (inductionHypothesis found)

theorem lookup_of_mem {name : String} {value : α} {members : List (String × α)}
    (distinct : (members.map Prod.fst).Nodup) (member : (name, value) ∈ members) :
    lookup name members = some value := by
  induction members with
  | nil => cases member
  | cons first rest inductionHypothesis =>
    obtain ⟨key, other⟩ := first
    simp only [List.map_cons, List.nodup_cons] at distinct
    simp only [lookup]
    cases member with
    | head => rw [if_pos rfl]
    | tail _ later =>
      -- The first entry of a name hides all others, but there are none.
      have different : key ≠ name := by
        intro same
        exact distinct.1 (same ▸ List.mem_map_of_mem later)
      rw [if_neg different]
      exact inductionHypothesis distinct.2 later

theorem names_put (name : String) (value : α) (members : List (String × α)) :
    (put name value members).map Prod.fst =
      if name ∈ members.map Prod.fst then members.map Prod.fst
      else members.map Prod.fst ++ [name] := by
  induction members with
  | nil => rfl
  | cons member rest inductionHypothesis =>
    obtain ⟨key, old⟩ := member
    simp only [put, List.map_cons, List.mem_cons]
    by_cases same : key = name
    · simp [same]
    · rw [if_neg same]
      simp only [List.map_cons, inductionHypothesis, Ne.symm same, false_or]
      split <;> rfl

theorem nodup_names_put (name : String) (value : α) {members : List (String × α)}
    (distinct : (members.map Prod.fst).Nodup) : ((put name value members).map Prod.fst).Nodup := by
  rw [names_put]
  split
  · exact distinct
  · rename_i fresh
    refine List.nodup_append.mpr ⟨distinct, by simp, ?_⟩
    intro known knownMember new newMember same
    rw [List.mem_singleton] at newMember
    exact fresh (newMember ▸ same ▸ knownMember)

theorem mem_put {entry : String × α} {name : String} {value : α} {members : List (String × α)}
    (member : entry ∈ put name value members) : entry = (name, value) ∨ entry ∈ members := by
  induction members with
  | nil => exact .inl (List.mem_singleton.mp member)
  | cons first rest inductionHypothesis =>
    obtain ⟨key, old⟩ := first
    simp only [put] at member
    split at member
    · rename_i same
      rw [List.mem_cons] at member
      rcases member with here | later
      · exact .inl (by rw [here, same])
      · exact .inr (List.mem_cons_of_mem _ later)
    · rw [List.mem_cons] at member
      rcases member with here | later
      · exact .inr (here ▸ List.mem_cons_self)
      · rcases inductionHypothesis later with new | old
        · exact .inl new
        · exact .inr (List.mem_cons_of_mem _ old)

theorem lookup_eq_find? (name : String) (members : List (String × α)) :
    lookup name members = (members.find? fun member => member.1 = name).map Prod.snd := by
  induction members with
  | nil => rfl
  | cons member rest inductionHypothesis =>
    obtain ⟨key, value⟩ := member
    by_cases here : key = name <;> simp [lookup, here, inductionHypothesis]

/-! ## Names without repetitions -/

theorem eraseDups_concat (names : List String) (name : String) :
    (names ++ [name]).eraseDups =
      if name ∈ names.eraseDups then names.eraseDups else names.eraseDups ++ [name] := by
  rw [List.eraseDups_append]
  by_cases known : name ∈ names <;> simp [List.removeAll, List.eraseDups_cons, known]

theorem nodup_eraseDups (names : List String) : names.eraseDups.Nodup := by
  induction names using List.reverseRecOn with
  | nil => exact List.nodup_nil
  | append_singleton names name inductionHypothesis =>
    rw [eraseDups_concat]
    split
    · exact inductionHypothesis
    · rename_i fresh
      rw [← List.concat_eq_append]
      exact inductionHypothesis.concat fresh

theorem eraseDups_of_nodup {names : List String} (distinct : names.Nodup) : names.eraseDups = names := by
  induction names using List.reverseRecOn with
  | nil => rfl
  | append_singleton names name inductionHypothesis =>
    obtain ⟨others, -, apart⟩ := List.nodup_append.mp distinct
    have fresh : name ∉ names := fun inside => apart name inside name List.mem_cons_self rfl
    rw [eraseDups_concat, inductionHypothesis others, if_neg fresh]

theorem eraseDups_concat_congr {names others : List String} (same : names.eraseDups = others.eraseDups)
    (name : String) : (names ++ [name]).eraseDups = (others ++ [name]).eraseDups := by
  rw [eraseDups_concat, eraseDups_concat, same]

theorem eraseDups_concat_self (names : List String) (name : String) :
    (names ++ [name] ++ [name]).eraseDups = (names ++ [name]).eraseDups := by
  rw [eraseDups_concat, if_pos (by simp)]

/-- Names without repetitions stand in the order of their first occurrences. -/
theorem pairwise_eraseDups (names : List String) :
    names.eraseDups.Pairwise fun before behind => names.idxOf before < names.idxOf behind := by
  induction names using List.reverseRecOn with
  | nil => exact List.Pairwise.nil
  | append_singleton names name inductionHypothesis =>
    have known : names.eraseDups.Pairwise fun before behind =>
        (names ++ [name]).idxOf before < (names ++ [name]).idxOf behind := by
      refine inductionHypothesis.imp_of_mem ?_
      intro before behind isBefore isBehind earlier
      rw [List.mem_eraseDups] at isBefore isBehind
      rwa [List.idxOf_append_of_mem isBefore, List.idxOf_append_of_mem isBehind]
    rw [eraseDups_concat]
    split
    · exact known
    · rename_i fresh
      rw [List.mem_eraseDups] at fresh
      refine List.pairwise_append.mpr ⟨known, List.pairwise_singleton _ _, ?_⟩
      intro before isBefore behind isLast
      rw [List.mem_eraseDups] at isBefore
      rw [List.mem_singleton.mp isLast, List.idxOf_append_of_mem isBefore,
        List.idxOf_append_of_notMem fresh]
      exact Nat.lt_add_right _ (List.idxOf_lt_length_of_mem isBefore)

/-! ## Tables that are laid one over the other -/

/-- A value is that of the last entry of a name. -/
def IsLast (name : String) (members : List (String × α)) (value : α) : Prop :=
  ∃ front back, members = front ++ (name, value) :: back ∧ name ∉ back.map Prod.fst

theorem exists_isLast {name : String} {members : List (String × α)} (isThere : name ∈ members.map Prod.fst) :
    ∃ value, IsLast name members value := by
  induction members with
  | nil => cases isThere
  | cons member rest inductionHypothesis =>
    by_cases behind : name ∈ rest.map Prod.fst
    · obtain ⟨value, front, back, rfl, isLast⟩ := inductionHypothesis behind
      exact ⟨value, member :: front, back, rfl, isLast⟩
    · obtain rfl : name = member.1 := by simpa [behind] using isThere
      exact ⟨member.2, [], rest, rfl, behind⟩

theorem IsLast.mem_names {name : String} {members : List (String × α)} {value : α}
    (isLast : IsLast name members value) : name ∈ members.map Prod.fst := by
  obtain ⟨front, back, rfl, -⟩ := isLast
  simp

/-- Where each name has one entry, this one is the last. -/
theorem isLast_of_mem {name : String} {members : List (String × α)} {value : α}
    (distinct : (members.map Prod.fst).Nodup) (isThere : (name, value) ∈ members) :
    IsLast name members value := by
  obtain ⟨front, back, rfl⟩ := List.append_of_mem isThere
  rw [List.map_append, List.map_cons] at distinct
  exact ⟨front, back, rfl, (List.nodup_cons.mp (List.nodup_append.mp distinct).2.1).1⟩

theorem IsLast.map {β : Type} (change : α → β) {name : String} {members : List (String × α)} {value : α}
    (isLast : IsLast name members value) :
    IsLast name (members.map fun member => (member.1, change member.2)) (change value) := by
  obtain ⟨front, back, rfl, isLast⟩ := isLast
  refine ⟨_, _, List.map_append, ?_⟩
  simpa using isLast

theorem merge_append (base first second : List (String × α)) :
    merge base (first ++ second) = merge (merge base first) second :=
  List.foldl_append

theorem put_of_not_mem {name : String} {members : List (String × α)} (fresh : name ∉ members.map Prod.fst)
    (value : α) : put name value members = members ++ [(name, value)] := by
  induction members with
  | nil => rfl
  | cons member rest inductionHypothesis =>
    rw [List.map_cons, List.mem_cons, not_or] at fresh
    rw [put, if_neg (Ne.symm fresh.1), inductionHypothesis fresh.2]
    rfl

/-- A table in which each name has one entry stays as it is. -/
theorem merge_nil {members : List (String × α)} (distinct : (members.map Prod.fst).Nodup) :
    merge [] members = members := by
  induction members using List.reverseRecOn with
  | nil => rfl
  | append_singleton members member inductionHypothesis =>
    rw [List.map_append, List.map_singleton] at distinct
    obtain ⟨others, -, apart⟩ := List.nodup_append.mp distinct
    have fresh : member.1 ∉ members.map Prod.fst := fun inside =>
      apart member.1 inside member.1 List.mem_cons_self rfl
    rw [merge_append, inductionHypothesis others]
    exact put_of_not_mem fresh member.2

/-- A name that the later table does not have keeps its value. -/
theorem lookup_merge_of_not_mem {name : String} {later : List (String × α)}
    (absent : name ∉ later.map Prod.fst) (base : List (String × α)) :
    lookup name (merge base later) = lookup name base := by
  induction later generalizing base with
  | nil => rfl
  | cons member rest inductionHypothesis =>
    rw [List.map_cons, List.mem_cons, not_or] at absent
    exact (inductionHypothesis absent.2 (put member.1 member.2 base)).trans
      ((lookup_put _ _ _ _).trans (if_neg (Ne.symm absent.1)))

/-- Of the entries of a name in the later table the last one counts. -/
theorem IsLast.lookup_merge {name : String} {later : List (String × α)} {value : α}
    (isLast : IsLast name later value) (base : List (String × α)) :
    lookup name (merge base later) = some value := by
  obtain ⟨front, back, rfl, isLast⟩ := isLast
  rw [merge_append]
  exact (lookup_merge_of_not_mem isLast (put name value (merge base front))).trans
    (lookup_put_self name value _)

theorem IsLast.unique {name : String} {members : List (String × α)} {first second : α}
    (isFirst : IsLast name members first) (isSecond : IsLast name members second) : first = second :=
  Option.some.inj ((isFirst.lookup_merge []).symm.trans (isSecond.lookup_merge []))

/-- The names of the later table that are new stand behind the others, in the order of their first
occurrences. -/
theorem names_merge (base later : List (String × α)) :
    (merge base later).map Prod.fst =
      base.map Prod.fst ++ (later.map Prod.fst).eraseDups.filter (· ∉ base.map Prod.fst) := by
  induction later using List.reverseRecOn with
  | nil => simp [merge]
  | append_singleton later member inductionHypothesis =>
    have last : merge base (later ++ [member]) = put member.1 member.2 (merge base later) :=
      merge_append _ _ _
    rw [last, names_put, inductionHypothesis, List.map_append, List.map_singleton, eraseDups_concat]
    by_cases inBase : member.1 ∈ base.map Prod.fst
    · rw [if_pos (List.mem_append_left _ inBase)]
      split
      · rfl
      · simp [List.filter_append, inBase]
    · have isNew : (member.1 ∈ base.map Prod.fst ++
          (later.map Prod.fst).eraseDups.filter (· ∉ base.map Prod.fst)) ↔
            member.1 ∈ (later.map Prod.fst).eraseDups := by
        simp [inBase]
      simp only [isNew]
      split
      · rfl
      · simp [List.filter_append, inBase]

/-- Tables with the same names, each once, and with the same entries are the same. -/
theorem eq_of_names {first second : List (String × α)} (sameNames : first.map Prod.fst = second.map Prod.fst)
    (distinct : (first.map Prod.fst).Nodup) (within : ∀ entry ∈ first, entry ∈ second) : first = second := by
  induction first generalizing second with
  | nil => exact (List.map_eq_nil_iff.mp sameNames.symm).symm
  | cons entry rest inductionHypothesis =>
    obtain _ | ⟨other, others⟩ := second
    · cases sameNames
    · obtain ⟨sameName, sameOthers⟩ := List.cons.inj sameNames
      rw [List.map_cons, List.nodup_cons] at distinct
      have isFirst : entry = other := by
        rcases List.mem_cons.mp (within entry List.mem_cons_self) with same | later
        · exact same
        · exact absurd (sameOthers ▸ List.mem_map_of_mem later) distinct.1
      subst isFirst
      congr 1
      refine inductionHypothesis sameOthers distinct.2 fun member inRest => ?_
      rcases List.mem_cons.mp (within member (List.mem_cons_of_mem _ inRest)) with rfl | later
      · exact absurd (List.mem_map_of_mem inRest) distinct.1
      · exact later

end ProjectGauge.Json
