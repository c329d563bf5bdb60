import ProjectGauge.Proofs.Command.Canonical
import ProjectGauge.Proofs.Console.Ending

/-!
# Removing what has just been added

A typed path that has been added is resolved to the same place afterwards, so removing it takes the new
directory out of the store again.  But a stored path is removed as it has been typed, before any other.

* `Outcome.ReportsSaved` says that a directory has been saved, and `Adding.of_reportsSaved` what this means.
* `remove_undoes_add`: the store is as before, unless the typed path was in it already.
-/

namespace ProjectGauge

open Files Console
open Store (Holds Start)
open Json (usualRoom)

variable {world : World} {system after : System} {file : Path} {directories : Record} {raw : List Char}
  {outcome : Outcome}

/-! ## Reports -/

/-- A call reports that a directory has been saved. -/
def Outcome.ReportsSaved (outcome : Outcome) : Prop :=
  ∃ directory, outcome.output = directoryMessage directory "has been saved!"

theorem saved_split (directory : List Char) :
    directoryMessage directory "has been saved!" =
      printed ("Directory \"".toList ++ directory ++ "\" has been ".toList ++ "saved!".toList) := by
  unfold directoryMessage
  simp

theorem saved_ne_stored (directory other : List Char) :
    directoryMessage directory "has been saved!" ≠ directoryMessage other "is already stored." := by
  have stored : directoryMessage other "is already stored." =
      printed ("Directory \"".toList ++ other ++ "\" is already s".toList ++ "tored.".toList) := by
    unfold directoryMessage
    simp
  rw [saved_split, stored]
  exact printed_ne (by decide) (by decide) (by decide) (by decide) _ _

theorem saved_ne_missing (directory : List Char) :
    directoryMessage directory "has been saved!" ≠ printedString "Error: Directory does not exist!" := by
  have missing : printedString "Error: Directory does not exist!" =
      printed ("Error: Directory does not ".toList ++ "exist!".toList) := rfl
  rw [saved_split, missing]
  exact printed_ne (by decide) (by decide) (by decide) (by decide) _ _

theorem saved_ne_nil (directory : List Char) : directoryMessage directory "has been saved!" ≠ [] := by
  rw [saved_split]
  obtain ⟨shown, isShown⟩ := printed_append (by decide : "saved!".toList.all isQuiet = true)
    ("Directory \"".toList ++ directory ++ "\" has been ".toList)
  rw [isShown]
  simp

/-- No other message reads like that of a directory that has been saved. -/
theorem Adding.of_reportsSaved (added : Adding world file directories raw outcome)
    (reports : outcome.ReportsSaved) :
    ∃ place, world.environment.place world.system raw = .ok place ∧
      String.ofList place.text ∉ directories ∧
      Store.write world.system file (directories ++ [String.ofList place.text]) = .ok outcome.system := by
  obtain ⟨directory, isOutput⟩ := reports
  cases added with
  | crashed cause fails => exact absurd isOutput.symm (saved_ne_nil directory)
  | missing fails => exact absurd isOutput.symm (saved_ne_missing directory)
  | known notes => exact absurd isOutput.symm (saved_ne_stored directory _)
  | saved notes isPlace isDirectory new written => exact ⟨_, isPlace, new, written⟩

/-! ## Removing again -/

/-- A path that has just been added is removed, as it has been typed if it was stored like that before. -/
theorem Removing.of_added {place : Path}
    (removed : Removing world file (directories ++ [String.ofList place.text]) raw outcome)
    (isPlace : world.environment.place world.system raw = .ok place)
    (new : String.ofList place.text ∉ directories) :
    outcome.ending = .exit successCode ∧
      Store.write world.system file
        (if String.ofList raw ∈ directories then
          directories.erase (String.ofList raw) ++ [String.ofList place.text] else directories) =
        .ok outcome.system := by
  cases removed with
  | crashed notes cause fails => exact absurd isPlace (fails _)
  | unknown notes otherPlace _ newPlace =>
    cases isPlace.symm.trans otherPlace
    simp at newPlace
  | asTyped notes stored written =>
    refine ⟨rfl, ?_⟩
    rw [← Record.erase_concat new fun other => ?_]
    · exact written
    · simpa [other] using stored
  | byPlace notes otherPlace newRaw stored written =>
    cases isPlace.symm.trans otherPlace
    have other : String.ofList raw ∉ directories := fun member => newRaw (List.mem_append_left _ member)
    refine ⟨rfl, ?_⟩
    rw [if_neg other]
    rw [Record.erase_concat new fun _ => rfl, if_neg new] at written
    exact written

theorem place_alike {environment : Environment} (alike : system.Alike after) (raw : List Char) :
    environment.place after raw = environment.place system raw := by
  unfold Environment.place
  simp only [alike.resolve]

variable {origin : System} {call : Call}

/-- A call on a store that has been prepared before, in the directory in which it stands. -/
theorem Call.run_of_holds (call : Call) (holds : Holds usualRoom system file directories)
    (inHere : system.here = call.here) :
    call.run file system = perform (call.world system) file call.command := by
  have sees : call.Sees file system := fun _ => inHere.symm
  obtain ⟨prepared, made, -, -, run⟩ := Call.run_eq holds.start sees
  have same : system.workingIn call.here = system := by
    rw [← inHere]
    rfl
  rw [same] at made
  cases holds.prepare.symm.trans made
  exact run

/-- The same call with another command. -/
def Call.instead (call : Call) (command : Command) : Call :=
  { call with command }

/-- A call that reports a saved directory, and the same call that removes what has been typed. -/
theorem Call.run_instead (start : Start usualRoom system file directories) (sees : call.Sees file system)
    (isAdd : call.command = .add raw) (reports : (call.run file system).ReportsSaved) :
    ∃ prepared place, Store.prepare (system.workingIn call.here) file = .ok prepared ∧
      call.environment.place prepared raw = .ok place ∧ String.ofList place.text ∉ directories ∧
      Store.Reads usualRoom (call.run file system).system file (directories ++ [String.ofList place.text]) ∧
      ((call.instead (.remove raw)).run file (call.run file system).system).ending = .exit successCode ∧
      Store.Reads usualRoom ((call.instead (.remove raw)).run file (call.run file system).system).system file
        (if String.ofList raw ∈ directories then
          directories.erase (String.ofList raw) ++ [String.ofList place.text] else directories) := by
  obtain ⟨prepared, made, inHere, holds, run⟩ := Call.run_eq start sees
  have added := adding (call.world prepared) holds raw
  have isOutcome : call.run file system = addDirectory (call.world prepared) file raw := by
    rw [run, isAdd]
    rfl
  rw [isOutcome] at reports ⊢
  obtain ⟨place, isPlace, new, written⟩ := added.of_reportsSaved reports
  obtain ⟨holdsAfter, alike⟩ := holds.of_write enoughRoom written
  generalize (addDirectory (call.world prepared) file raw).system = after at *
  -- The second call starts in the files of the first one, in which all paths lead where they did.
  have removed := removing ((call.instead (.remove raw)).world after) holdsAfter raw
  have samePlace : call.environment.place after raw = .ok place := (place_alike alike raw).trans isPlace
  obtain ⟨ended, writtenAgain⟩ := removed.of_added samePlace new
  obtain ⟨holdsAgain, -⟩ := holdsAfter.of_write enoughRoom writtenAgain
  have runAgain := Call.run_of_holds (call.instead (.remove raw)) holdsAfter (alike.here.trans inHere)
  refine ⟨prepared, place, made, isPlace, new, holdsAfter.start.reads, ?_, ?_⟩
  · rw [runAgain]
    exact ended
  · rw [runAgain]
    exact holdsAgain.start.reads

/-! ## Typed as it is stored -/

/-- A canonical path that is typed as it is stored is resolved to itself, unless a blank at its end gets
lost. -/
theorem IsCanonical.place_eq (environment : Environment) {directory : String} {place : List Name}
    (canonical : IsCanonical system directory place)
    (visible : ∀ c, directory.toList.getLast? = some c → Text.isBlank c = false) :
    environment.place system directory.toList = .ok (.ofNames place) := by
  obtain ⟨leads, -⟩ := canonical.hasDirectory
  obtain ⟨rfl, plain, -, -⟩ := canonical
  rw [String.toList_ofList] at visible ⊢
  refine Environment.place_ok_iff.mpr ⟨_, environment.typedText_ofNames visible, ?_⟩
  rw [parse_text plain.areNames]
  exact (plain.routed leads.fits).resolve_eq leads

/-- Where the stored paths are canonical, none of them is what has been typed for a new one, unless it has a
blank at its end. -/
theorem AreCanonical.not_typed {environment : Environment} {place : Path}
    (stored : AreCanonical system directories)
    (isPlace : environment.place system raw = .ok place) (new : String.ofList place.text ∉ directories)
    (visible : ∀ c, raw.getLast? = some c → Text.isBlank c = false) : String.ofList raw ∉ directories := by
  intro member
  obtain ⟨own, canonical⟩ := stored.canonical _ member
  have isOwn := canonical.place_eq environment (by rwa [String.toList_ofList])
  rw [String.toList_ofList] at isOwn
  cases isOwn.symm.trans isPlace
  exact new (canonical.text ▸ member)

/-- Whatever has been done with a store that starts without directories: a path that has been added, as is
reported, can be removed by the same typed path, and then the store is as before.  If the path as it has
been typed was in the store, that one has been removed; but as long as all calls have been clear, only a
path with a blank at its end can be. -/
theorem remove_undoes_add (start : Start usualRoom origin file [])
    {allowed : Call → System → Prop} (reached : Reached allowed file origin system)
    (sees : call.Sees file system) (isAdd : call.command = .add raw)
    (reports : (call.run file system).ReportsSaved) :
    ∃ directories directory, Store.Reads usualRoom system file directories ∧
      Store.Reads usualRoom (call.run file system).system file (directories ++ [directory]) ∧
      ((call.instead (.remove raw)).run file (call.run file system).system).ending = .exit successCode ∧
      Store.Reads usualRoom ((call.instead (.remove raw)).run file (call.run file system).system).system file
        (if String.ofList raw ∈ directories then
          directories.erase (String.ofList raw) ++ [directory] else directories) ∧
      (Reached Call.Clear file origin system →
        (∀ c, raw.getLast? = some c → Text.isBlank c = false) → String.ofList raw ∉ directories) := by
  obtain ⟨directories, startHere⟩ := reached.start start
  obtain ⟨prepared, place, made, isPlace, new, added, ended, removed⟩ :=
    Call.run_instead startHere sees isAdd reports
  refine ⟨directories, _, startHere.reads, added, ended, removed, fun clearly visible => ?_⟩
  obtain ⟨others, otherStart, stored⟩ := clearly.areCanonical start
  obtain rfl := startHere.reads.unique otherStart.reads
  exact (stored.prepare (startHere.workingIn sees) made).not_typed isPlace new visible

/-- The directory at hand is added to a store with one in it, and removed. -/
theorem remove_undoes_add_sample :
    ((callInTree (.add self)).run linkedStore (linkedTreeWith ["/w/r"])).ReportsSaved ∧
      ((callInTree (.remove self)).run linkedStore
        ((callInTree (.add self)).run linkedStore (linkedTreeWith ["/w/r"])).system).ending =
          .exit successCode ∧
      Store.Reads usualRoom ((callInTree (.remove self)).run linkedStore
        ((callInTree (.add self)).run linkedStore (linkedTreeWith ["/w/r"])).system).system linkedStore
          ["/w/r"] := by
  have reached : Reached (fun _ _ => True) linkedStore linkedTree (linkedTreeWith ["/w/r"]) := by
    rw [← linkedTree_after]
    exact .call .origin nofun fun _ _ => trivial
  have reports : ((callInTree (.add self)).run linkedStore (linkedTreeWith ["/w/r"])).ReportsSaved :=
    ⟨"/w".toList, by decide +kernel⟩
  obtain ⟨directories, directory, ⟨notes, known⟩, -, ended, removed, -⟩ :=
    remove_undoes_add (start_absent rfl) reached nofun rfl reports
  cases linkedTree_stored.symm.trans known
  exact ⟨reports, ended, removed⟩

/-- Two directories whose names differ in a blank at the end. -/
def blankTree : System :=
  ⟨.directory ['w'] (.directory ['b', ' '] .nil (.directory ['b'] .nil .nil)) .nil, []⟩

/-- The files with the first directory stored, typed with a slash behind the blank. -/
def blankStored : System :=
  ((callInTree (.add "b /".toList)).run linkedStore blankTree).system

/-- What has been typed with a blank at its end stands for the directory without it, but what is removed is
the one that is stored like that. -/
theorem removed_as_typed :
    Start usualRoom blankTree linkedStore [] ∧
      (Store.read usualRoom blankStored linkedStore).toOption.map Noted.value = some ["/w/b "] ∧
      ((callInTree (.add "/w/b ".toList)).run linkedStore blankStored).output =
        directoryMessage "/w/b".toList "has been saved!" ∧
      (Store.read usualRoom ((callInTree (.remove "/w/b ".toList)).run linkedStore
        ((callInTree (.add "/w/b ".toList)).run linkedStore blankStored).system).system
        linkedStore).toOption.map Noted.value = some ["/w/b"] :=
  ⟨start_absent rfl, by decide +kernel, by decide +kernel, by decide +kernel⟩

end ProjectGauge
