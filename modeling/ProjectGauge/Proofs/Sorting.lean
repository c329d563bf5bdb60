import Mathlib.Data.List.Basic

/-!
# Sorting by a key

Entries are sorted so that their keys fall.  Entries with the same key stay in the order in which they were.
-/

namespace ProjectGauge

variable {α : Type} (key : α → Int)

theorem falling_trans (first second third : α) (above : decide (key second ≤ key first) = true)
    (below : decide (key third ≤ key second) = true) : decide (key third ≤ key first) = true :=
  decide_eq_true (Int.le_trans (of_decide_eq_true below) (of_decide_eq_true above))

theorem falling_total (first second : α) :
    (decide (key second ≤ key first) || decide (key first ≤ key second)) = true := by
  rw [Bool.or_eq_true, decide_eq_true_eq, decide_eq_true_eq]
  exact Int.le_total _ _

theorem pairwise_mergeSort_key (entries : List α) :
    (entries.mergeSort fun a b => key b ≤ key a).Pairwise fun before behind => key behind ≤ key before :=
  (List.pairwise_mergeSort (falling_trans key) (falling_total key) entries).imp of_decide_eq_true

/-- The entries with one key stay in their order. -/
theorem filter_mergeSort_key (entries : List α) (value : Int) :
    (entries.mergeSort fun a b => key b ≤ key a).filter (key · = value) = entries.filter (key · = value) := by
  have level : (entries.filter (key · = value)).Pairwise fun a b => decide (key b ≤ key a) = true := by
    refine List.pairwise_of_forall_mem_list fun before isBefore behind isBehind => ?_
    have here := of_decide_eq_true (List.mem_filter.mp isBefore).2
    have there := of_decide_eq_true (List.mem_filter.mp isBehind).2
    exact decide_eq_true (Int.le_of_eq (there.trans here.symm))
  have kept : (entries.filter (key · = value)).Sublist (entries.mergeSort fun a b => key b ≤ key a) :=
    List.sublist_mergeSort (falling_trans key) (falling_total key) level List.filter_sublist
  have inside := kept.filter (key · = value)
  simp only [List.filter_filter, Bool.and_self] at inside
  -- The sort has no more entries with the key than there were.
  exact (inside.eq_of_length ((List.mergeSort_perm entries _).filter _).length_eq.symm).symm

/-- Of two entries with the same key, the one that stands first in a sorted list stood first before. -/
theorem pair_sublist_of_mergeSort {entries : List α} {before behind : α}
    (sorted : [before, behind].Sublist (entries.mergeSort fun a b => key b ≤ key a))
    (same : key behind = key before) : [before, behind].Sublist entries := by
  have chosen := sorted.filter (key · = key before)
  rw [filter_mergeSort_key] at chosen
  simp only [List.filter_cons, same, decide_true, if_true, List.filter_nil] at chosen
  exact chosen.trans List.filter_sublist

end ProjectGauge
