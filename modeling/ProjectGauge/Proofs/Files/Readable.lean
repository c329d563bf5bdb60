import ProjectGauge.Proofs.Files.Spelling
import ProjectGauge.Proofs.Files.Tree

/-!
# Entries behind their own names

An entry that is no link is reached along the names of its place, from the root down.  Only a name or a path
that is too long can stand in the way, and a system has no entries with such names.

* `Listing.Named`: all entries of a tree have names that a system accepts.
* `System.leads_ofNames`: the path along the names of an entry leads to it.
-/

namespace ProjectGauge.Files

/-- A name that a system accepts for an entry. -/
structure IsAccepted (name : Name) : Prop where
  isName : IsName name
  noNull : '\x00' ∉ name
  fits : Text.Utf8.byteLength name ≤ nameLimit

instance (name : Name) : Decidable (IsAccepted name) :=
  decidable_of_iff ((name ≠ [] ∧ '/' ∉ name ∧ name ≠ self ∧ name ≠ parent) ∧ '\x00' ∉ name ∧
      Text.Utf8.byteLength name ≤ nameLimit)
    ⟨fun ⟨⟨nonempty, noSlash, notSelf, notParent⟩, noNull, fits⟩ =>
        ⟨⟨nonempty, noSlash, notSelf, notParent⟩, noNull, fits⟩,
      fun ⟨⟨nonempty, noSlash, notSelf, notParent⟩, noNull, fits⟩ =>
        ⟨⟨nonempty, noSlash, notSelf, notParent⟩, noNull, fits⟩⟩

theorem IsAccepted.proper {name : Name} (accepted : IsAccepted name) : IsProper name :=
  ⟨accepted.isName.notSelf, accepted.isName.notParent, accepted.fits⟩

namespace Listing

/-- All entries of a tree have names that a system accepts. -/
def Named : Listing → Prop
  | nil => True
  | file name _ rest => IsAccepted name ∧ rest.Named
  | link name _ rest => IsAccepted name ∧ rest.Named
  | directory name children rest => IsAccepted name ∧ children.Named ∧ rest.Named

instance decidableNamed : (listing : Listing) → Decidable listing.Named
  | nil => inferInstanceAs (Decidable True)
  | file name _ rest =>
    have := decidableNamed rest
    inferInstanceAs (Decidable (IsAccepted name ∧ rest.Named))
  | link name _ rest =>
    have := decidableNamed rest
    inferInstanceAs (Decidable (IsAccepted name ∧ rest.Named))
  | directory name children rest =>
    have := decidableNamed children
    have := decidableNamed rest
    inferInstanceAs (Decidable (IsAccepted name ∧ children.Named ∧ rest.Named))

/-- The first name on the way to an entry is accepted, and so are all others. -/
theorem Named.of_at? {listing : Listing} {names : List Name} {node : Node} (named : listing.Named)
    (found : listing.at? names = some node) : ∀ name ∈ names, IsAccepted name := by
  induction listing generalizing names with
  | nil =>
    cases names with
    | nil => simp
    | cons first more => cases mem_entryNames_of_at? found
  | file name content rest inductionHypothesis | link name content rest inductionHypothesis =>
    cases names with
    | nil => simp
    | cons first more =>
      by_cases here : name = first
      · subst here
        cases more with
        | nil => simpa using named.1
        | cons next more => simp [at?, find?] at found
      · exact inductionHypothesis named.2
          ((at?_cons_of_find? (by simp [find?, here]) more).symm.trans found)
  | directory name children rest inside inductionHypothesis =>
    cases names with
    | nil => simp
    | cons first more =>
      by_cases here : name = first
      · subst here
        have isDirectory : (directory name children rest).find? name = some (.directory children) := by
          simp [find?]
        rw [at?_cons_directory more isDirectory] at found
        exact List.forall_mem_cons.mpr ⟨named.1, inside named.2.1 found⟩
      · exact inductionHypothesis named.2.2
          ((at?_cons_of_find? (by simp [find?, here]) more).symm.trans found)

end Listing

theorem noNull_ofNames {names : List Name} (accepted : ∀ name ∈ names, IsAccepted name) :
    (Path.ofNames names).text.contains '\x00' = false := by
  rw [text_ofNames]
  simp only [List.contains_eq_mem, decide_eq_false_iff_not, List.mem_cons, not_or]
  refine ⟨by decide, ?_⟩
  induction names with
  | nil => simp [joined]
  | cons name rest inductionHypothesis =>
    rw [List.forall_mem_cons] at accepted
    cases rest with
    | nil => exact accepted.1.noNull
    | cons next rest =>
      rw [joined_cons_cons, List.mem_append, List.mem_append, not_or, not_or]
      exact ⟨⟨accepted.1.noNull, by decide⟩, inductionHypothesis accepted.2⟩

namespace System

variable {system : System} {place : List Name} {node : Node}

/-- The path along the names of an entry leads to it. -/
theorem leads_ofNames (named : system.root.Named) (found : system.at? place = some node)
    (notLink : node.target? = none) (short : Text.Utf8.byteLength (Path.ofNames place).text < pathLimit) :
    system.Leads (.ofNames place) place := by
  have accepted := named.of_at? found
  have fits : (Path.ofNames place).Fits := ⟨noNull_ofNames accepted, short⟩
  clear short
  -- The way goes down name by name, so the induction takes the last one off.
  induction place using List.reverseRecOn generalizing node with
  | nil => exact ⟨fits, .arrived⟩
  | append_singleton front last inductionHypothesis =>
    obtain ⟨children, isDirectory⟩ := Listing.at?_dropLast (by simp) found
    rw [List.dropLast_concat] at isDirectory
    have above : (Path.ofNames front).Fits := by
      have fitsAbove := fits.parentPath
      rwa [Path.parentPath, Path.ofNames, List.dropLast_concat] at fitsAbove
    have leads := inductionHypothesis isDirectory rfl (named.of_at? isDirectory) above
    exact leads.child ⟨children, isDirectory⟩ fits (accepted last (by simp)).proper found notLink

end System
end ProjectGauge.Files
