import ProjectGauge.Proofs.Files.Alike
import ProjectGauge.Proofs.Files.WorkingDirectory
import ProjectGauge.Proofs.Store.Refinement

/-!
# What a store is read as

A store is read as the directories that it starts with or that have been written to it, from any working
directory.

* `Reads` says what a store is read as, and `Start.reads` that nothing needs to be prepared for that.
* `Start.workingIn`, `here_of_prepare`: the working directory does not matter, and is left alone.
* `Holds.of_write`: behind a write there are the new directories, in a file system that is alike.
-/

namespace ProjectGauge

open Files

/-! ## Changes of a record -/

namespace Record

variable {directory : String} {record others : Record}

theorem add?_eq_none : record.add? directory = none ↔ directory ∈ record := by
  unfold add?
  split <;> simp_all

theorem add?_eq_some :
    record.add? directory = some others ↔ directory ∉ record ∧ record ++ [directory] = others := by
  unfold add?
  split <;> simp_all

theorem remove?_eq_none : record.remove? directory = none ↔ directory ∉ record := by
  unfold remove?
  split <;> simp_all

theorem remove?_eq_some :
    record.remove? directory = some others ↔ directory ∈ record ∧ record.erase directory = others := by
  unfold remove?
  split <;> simp_all

/-- A record with a new directory at its end, of which another one is removed if it is there, and else the
new one. -/
theorem erase_concat {removed : String} (new : directory ∉ record)
    (isRemoved : removed ∉ record → removed = directory) :
    (record ++ [directory]).erase removed =
      if removed ∈ record then record.erase removed ++ [directory] else record := by
  split
  · rename_i member
    exact List.erase_append_left _ member
  · rename_i other
    rw [isRemoved other, List.erase_append_right _ new]
    simp

end Record

/-! ## Stores -/

namespace Store

variable {room : Nat} {system prepared : System} {file : Path} {here : List Name} {directories : Record}

theorem Start.workingIn (start : Start room system file directories)
    (same : file.anchor = .here → here = system.here) :
    Start room (system.workingIn here) file directories := by
  cases start with
  | absent isFile named fits vacant =>
    obtain ⟨leads, isDirectory, missing, proper⟩ := vacant
    refine .absent isFile named fits ⟨leads.workingIn fun anchor => same ?_, isDirectory, missing, proper⟩
    rw [isFile]
    exact anchor
  | regular named found shallow => exact .regular named (System.nodeAt_workingIn same found) shallow

/-- A store is read as some directories. -/
def Reads (room : Nat) (system : System) (file : Path) (directories : Record) : Prop :=
  ∃ notes, read room system file = .ok ⟨directories, notes⟩

theorem Reads.unique {others : Record} (reads : Reads room system file directories)
    (otherReads : Reads room system file others) : directories = others := by
  obtain ⟨notes, known⟩ := reads
  obtain ⟨otherNotes, otherKnown⟩ := otherReads
  cases known.symm.trans otherKnown
  rfl

/-- Before anything has been done with a store, it reads as what it starts with. -/
theorem Start.reads (start : Start room system file directories) : Reads room system file directories := by
  cases start with
  | @absent base place fresh isFile named fits vacant =>
    cases fresh with
    | nil => exact absurd rfl named
    | cons name names =>
      have missing : system.bytesAt file = .error (.refused .notFound file.text) := by
        subst isFile
        unfold System.bytesAt System.nodeAt
        rw [System.walk_missing vacant.leads vacant.isDirectory fits (vacant.proper name List.mem_cons_self)
          (vacant.missing name rfl), if_neg (by simp [Ending.existing])]
        rfl
      unfold Reads Store.read
      rw [missing]
      exact ⟨_, rfl⟩
  | regular named found shallow => exact Holds.read ⟨named, _, found, shallow, rfl⟩

theorem Holds.start (holds : Holds room system file directories) : Start room system file directories := by
  obtain ⟨named, content, found, shallow, rfl⟩ := holds
  exact .regular named found shallow

theorem here_of_prepare (made : prepare system file = .ok prepared) : prepared.here = system.here := by
  unfold prepare at made
  obtain ⟨middle, madeDirectories, made⟩ := bind_eq_ok.mp made
  have sameHere := System.here_of_makeDirectoryBelow madeDirectories
  obtain ⟨isThere, -, made⟩ := bind_eq_ok.mp made
  cases isThere with
  | true =>
    cases made
    exact sameHere
  | false => exact (System.here_of_write made).trans sameHere

/-- Only where there are no directories yet does it make a difference to prepare a store. -/
theorem Start.eq_of_prepare (start : Start room system file directories)
    (made : Store.prepare system file = .ok prepared) : directories = [] ∨ prepared = system := by
  cases start with
  | absent => exact .inl rfl
  | regular named found =>
    cases made.symm.trans (prepare_regular named found)
    exact .inr rfl

theorem Holds.of_write {after : System} {others : Record} (enough : 2 ≤ room)
    (holds : Holds room system file directories) (written : Store.write system file others = .ok after) :
    Holds room after file others ∧ system.Alike after := by
  obtain ⟨named, content, found, -⟩ := holds
  obtain ⟨same, writtenToo, -, inFile⟩ := System.write_known found (.ofBytes (writtenBytes others))
  cases Eq.trans written.symm writtenToo
  exact ⟨(written_of_nodeAt enough named inFile).1, System.alike_write found written⟩

end Store
end ProjectGauge
