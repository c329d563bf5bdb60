import ProjectGauge.Project.Sources
import Mathlib.Data.Char
import Mathlib.Data.List.Lex
import Mathlib.Data.List.Sort
import Mathlib.Data.List.TakeWhile

/-!
# Files in order

The order of files is the lexicographic order of their names, which are compared by the code points of
their characters.  Sorting therefore gives one list for each set of files.

* `isLE_orderOfNames_iff` says which order it is, and `sortFiles_ordered` that sorting establishes it.
* `isSuffix_iff` says of every name what its suffix is.
-/

namespace ProjectGauge

open Files

/-! ## The order of names -/

section Order

variable {order : α → α → Ordering} {less : α → α → Prop}

/-- The order of lists is the lexicographic one. -/
theorem orderOfLists_eq_lt_iff (isLess : ∀ a b, order a b = .lt ↔ less a b)
    (isEqual : ∀ a b, order a b = .eq ↔ a = b) (as bs : List α) :
    orderOfLists order as bs = .lt ↔ List.Lex less as bs := by
  induction as generalizing bs with
  | nil => cases bs <;> simp [orderOfLists]
  | cons a as inductionHypothesis =>
    cases bs with
    | nil => simp [orderOfLists]
    | cons b bs =>
      rw [orderOfLists, Ordering.then_eq_lt, isLess, isEqual, inductionHypothesis]
      constructor
      · rintro (first | ⟨rfl, later⟩)
        · exact .rel first
        · exact .cons later
      · intro before
        cases before with
        | cons later => exact .inr ⟨rfl, later⟩
        | rel first => exact .inl first

theorem orderOfLists_eq_eq_iff (isEqual : ∀ a b, order a b = .eq ↔ a = b) (as bs : List α) :
    orderOfLists order as bs = .eq ↔ as = bs := by
  induction as generalizing bs with
  | nil => cases bs <;> simp [orderOfLists]
  | cons a as inductionHypothesis =>
    cases bs with
    | nil => simp [orderOfLists]
    | cons b bs =>
      rw [orderOfLists, Ordering.then_eq_eq, isEqual, inductionHypothesis, List.cons.injEq]

end Order

theorem orderOfChars_eq_lt_iff (a b : Char) : orderOfChars a b = .lt ↔ a < b := by
  change _ ↔ a.toNat < b.toNat
  unfold orderOfChars
  split
  · simp_all
  · split <;> simp_all

theorem orderOfChars_eq_eq_iff (a b : Char) : orderOfChars a b = .eq ↔ a = b := by
  rw [← Char.toNat_inj]
  unfold orderOfChars
  split
  · simp only [reduceCtorEq, false_iff]
    omega
  · split
    · simp only [reduceCtorEq, false_iff]
      omega
    · simp only [true_iff]
      omega

theorem orderOfNames_eq_lt_iff (a b : List Name) : orderOfNames a b = .lt ↔ a < b :=
  orderOfLists_eq_lt_iff
    (orderOfLists_eq_lt_iff orderOfChars_eq_lt_iff orderOfChars_eq_eq_iff)
    (orderOfLists_eq_eq_iff orderOfChars_eq_eq_iff) a b

theorem orderOfNames_eq_eq_iff (a b : List Name) : orderOfNames a b = .eq ↔ a = b :=
  orderOfLists_eq_eq_iff (orderOfLists_eq_eq_iff orderOfChars_eq_eq_iff) a b

theorem isLE_orderOfNames_iff (a b : List Name) : (orderOfNames a b).isLE = true ↔ a ≤ b := by
  rw [Ordering.isLE_iff_eq_lt_or_eq_eq, orderOfNames_eq_lt_iff, orderOfNames_eq_eq_iff, le_iff_lt_or_eq]

/-! ## Suffixes -/

/-- A suffix is the text from the last point of a name on if that is neither the first nor the last
character, and empty otherwise. -/
inductive IsSuffix : Name → List Char → Prop where
  | pointed {stem tail : List Char} (front : stem ≠ []) (behind : tail ≠ []) (last : '.' ∉ tail) :
      IsSuffix (stem ++ '.' :: tail) ('.' :: tail)
  | plain {name : Name}
      (unpointed : ∀ stem tail, name = stem ++ '.' :: tail → '.' ∉ tail → stem = [] ∨ tail = []) :
      IsSuffix name []

theorem suffix_pointed {tail : List Char} (stem : List Char) (last : '.' ∉ tail) :
    suffix (stem ++ '.' :: tail) = if stem = [] ∨ tail = [] then [] else '.' :: tail := by
  have behind : ((stem ++ '.' :: tail).reverse.takeWhile (· != '.')).reverse = tail := by
    have plain : ∀ c ∈ tail.reverse, (c != '.') = true := by
      intro c member
      simp only [bne_iff_ne]
      rintro rfl
      exact last (List.mem_reverse.mp member)
    simp [List.takeWhile_append_of_pos plain]
  unfold suffix
  rw [behind]
  cases stem <;> cases tail <;> simp +arith

theorem suffix_unpointed {name : Name} (unpointed : '.' ∉ name) : suffix name = [] := by
  have whole : name.reverse.takeWhile (· != '.') = name.reverse := by
    rw [List.takeWhile_eq_self_iff]
    intro c member
    simp only [bne_iff_ne]
    rintro rfl
    exact unpointed (List.mem_reverse.mp member)
  unfold suffix
  rw [whole]
  simp

theorem exists_last_point {name : Name} (pointed : '.' ∈ name) :
    ∃ stem tail, name = stem ++ '.' :: tail ∧ '.' ∉ tail := by
  obtain ⟨before, behind, split, first⟩ := List.eq_append_cons_of_mem (List.mem_reverse.mpr pointed)
  refine ⟨behind.reverse, before.reverse, ?_, by simpa using first⟩
  rw [List.reverse_eq_iff.mp split]
  simp

theorem isSuffix_iff {name : Name} {ext : List Char} : IsSuffix name ext ↔ suffix name = ext := by
  constructor
  · intro isSuffix
    cases isSuffix with
    | pointed front behind last => rw [suffix_pointed _ last, if_neg (by simp [front, behind])]
    | plain unpointed =>
      by_cases pointed : '.' ∈ name
      · obtain ⟨stem, tail, rfl, last⟩ := exists_last_point pointed
        rw [suffix_pointed stem last, if_pos (unpointed stem tail rfl last)]
      · exact suffix_unpointed pointed
  · rintro rfl
    by_cases pointed : '.' ∈ name
    · obtain ⟨stem, tail, rfl, last⟩ := exists_last_point pointed
      have isSuffix := suffix_pointed stem last
      split at isSuffix
      · rename_i bare
        rw [isSuffix]
        -- Another way to split the name at a last point would give another suffix.
        refine .plain fun other rest same unpointed => ?_
        have again := suffix_pointed other unpointed
        rw [← same, isSuffix] at again
        by_contra some
        rw [if_neg some] at again
        cases again
      · rename_i some
        rw [isSuffix]
        exact .pointed (fun none => some (.inl none)) (fun none => some (.inr none)) last
    · rw [suffix_unpointed pointed]
      refine .plain fun stem tail same _ => ?_
      subst same
      simp at pointed

/-! ## Files in order -/

theorem sortFiles_ordered {files : List SourceFile} (distinct : (files.map SourceFile.names).Nodup) :
    (sortFiles files).Pairwise fun before behind => before.names < behind.names := by
  have order : (sortFiles files).Perm files := List.mergeSort_perm _ _
  have ascending : (sortFiles files).Pairwise fun before behind => before.names ≤ behind.names := by
    refine (List.pairwise_mergeSort ?_ ?_ files).imp (isLE_orderOfNames_iff _ _).mp
    · intro first second third
      simp only [isLE_orderOfNames_iff]
      exact le_trans
    · intro first second
      rw [Bool.or_eq_true, isLE_orderOfNames_iff, isLE_orderOfNames_iff]
      exact le_total _ _
  -- Sorting gives `≤`, and the names are `≠` as no two files have the same ones.
  have apart : (sortFiles files).Pairwise fun before behind => before.names ≠ behind.names :=
    List.pairwise_map.mp ((order.map SourceFile.names).nodup_iff.mpr distinct)
  exact ascending.imp₂ (fun _ _ => lt_of_le_of_ne) apart

/-- Files in strict order are determined by which files they are. -/
theorem eq_of_ordered {first second : List SourceFile}
    (firstOrdered : first.Pairwise fun before behind => before.names < behind.names)
    (secondOrdered : second.Pairwise fun before behind => before.names < behind.names)
    (same : ∀ file, file ∈ first ↔ file ∈ second) : first = second := by
  have nodup {files : List SourceFile}
      (ordered : files.Pairwise fun before behind => before.names < behind.names) : files.Nodup :=
    ordered.imp fun before equal => absurd (equal ▸ before) (lt_irrefl _)
  refine List.Perm.eq_of_pairwise (fun a b _ _ before behind => ?_) firstOrdered secondOrdered
    ((List.perm_ext_iff_of_nodup (nodup firstOrdered) (nodup secondOrdered)).mpr same)
  exact absurd (before.trans behind) (lt_irrefl _)

end ProjectGauge
