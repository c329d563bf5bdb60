import ProjectGauge.Command.Run
import ProjectGauge.Proofs.Store.Reading

/-!
# Calls one after the other

A call is a command in a working directory.  It prepares the store and carries out the command, and the
next call finds the files that it leaves.

* `Call.run` is a call, `Reached` says which files any number of calls leave.
* `Call.run_of_line`: a command line is run as a call.
* `Call.run_eq`: a call finds the list of the store prepared.
* `perform_effect`: a command leaves the files alone, or adds a directory, or removes one.
* `Reached.start`: there is always a store, or a place for one.
-/

namespace ProjectGauge

open Files Console

/-! ## Calls -/

/-- A command with the working directory, the environment and the clocks that it is given in. -/
structure Call where
  here : List Name
  environment : Environment
  clock : String → Clock
  command : Command

namespace Call

/-- A file system as a call finds it. -/
def world (call : Call) (system : System) : World :=
  ⟨system, call.environment, call.clock⟩

/-- A call on the store in a file. -/
def run (call : Call) (file : Path) (system : System) : Outcome :=
  withStore (call.world (system.workingIn call.here)) file fun world => perform world file call.command

/-- A file with a relative path is the same file only from the same working directory. -/
def Sees (call : Call) (file : Path) (system : System) : Prop :=
  file.anchor = .here → call.here = system.here

end Call

/-- The file systems that calls on the store in a file leave, where each of them is allowed on the files
that it finds once the store has been prepared. -/
inductive Reached (allowed : Call → System → Prop) (file : Path) (origin : System) : System → Prop where
  | origin : Reached allowed file origin origin
  | call {system : System} {call : Call} (before : Reached allowed file origin system)
    (sees : call.Sees file system)
    (isAllowed : ∀ prepared, Store.prepare (system.workingIn call.here) file = .ok prepared →
      allowed call prepared) :
    Reached allowed file origin (call.run file system).system

variable {world : World} {system origin : System} {file : Path} {directories : Record} {call : Call}

open Store (Holds Start)
open Json (usualRoom)

/-- A command line that is read as a command on the store in a file. -/
structure CommandLine (environment : Environment) (file : Path) (command : Command) where
  words : List Word
  options : Options
  verb : Verb
  arguments : List Word
  settings : Settings
  read : Options.read sharedForms false words = .ok options
  noHelp : options.has helpForm.name = false
  possible : impossibleFile? options = none
  isVerb : options.words = verb.word.toList :: arguments
  isCommand : Command.read verb arguments = .ok (some command)
  isSet : Settings.ofEnvironment environment = .ok settings
  isFile : storeFileOf environment options settings = .ok file

/-- The run of a command line is a call. -/
theorem Call.run_of_line (line : CommandLine call.environment file call.command) (input : List Char) :
    ProjectGauge.run (call.world (system.workingIn call.here)) line.words input = call.run file system := by
  have known : Verb.ofWord? line.verb.word.toList = some line.verb := by cases line.verb <;> rfl
  unfold ProjectGauge.run runWith
  rw [line.read]
  dsimp only
  rw [line.noHelp, line.possible, line.isVerb]
  dsimp only
  rw [known]
  unfold ProjectGauge.start performVerb
  dsimp only [Call.world]
  rw [line.isSet]
  dsimp only
  rw [line.isFile, line.isCommand]
  rfl

/-- A store as it is written can be read again. -/
theorem enoughRoom : 2 ≤ usualRoom := by
  decide

/-- A call carries out its command where the store has been prepared. -/
theorem Call.run_eq (start : Start usualRoom system file directories) (sees : call.Sees file system) :
    ∃ prepared, Store.prepare (system.workingIn call.here) file = .ok prepared ∧
      prepared.here = call.here ∧ Holds usualRoom prepared file directories ∧
      call.run file system = perform (call.world prepared) file call.command := by
  obtain ⟨prepared, made, holds⟩ := (start.workingIn sees).prepare enoughRoom
  refine ⟨prepared, made, Store.here_of_prepare made, holds, ?_⟩
  unfold run withStore world
  dsimp only
  rw [made]
  rfl

/-! ## Commands -/

theorem Outcome.after_after (first second : List Note) (outcome : Outcome) :
    (outcome.after second).after first = outcome.after (first ++ second) := by
  simp [Outcome.after]

/-- A change to a store ends with a message, or otherwise where there is nothing to change. -/
theorem afterChange_update (holds : Holds usualRoom world.system file directories) (message : List Char)
    (otherwise : Outcome) (change : Record → Option Record) :
    ∃ notes,
      change directories = none ∧
        afterChange world message otherwise (Store.update usualRoom world.system file change) =
          otherwise.after notes ∨
      ∃ others after, change directories = some others ∧
        Store.write world.system file others = .ok after ∧
        afterChange world message otherwise (Store.update usualRoom world.system file change) =
          (Outcome.success (world.withSystem after) message).after notes := by
  obtain ⟨notes, known⟩ := holds.read
  refine ⟨notes, ?_⟩
  unfold Store.update
  rw [known]
  dsimp only
  cases changed : change directories with
  | none => exact .inl ⟨rfl, rfl⟩
  | some others =>
    obtain ⟨after, written, -⟩ := holds.write enoughRoom others
    refine .inr ⟨others, after, rfl, written, ?_⟩
    dsimp only
    rw [written]
    rfl

/-- What adding a typed directory comes to. -/
inductive Adding (world : World) (file : Path) (directories : Record) (raw : List Char) : Outcome → Prop where
  | crashed (cause : Crash) (fails : ∀ place, world.environment.place world.system raw = .ok place →
      world.system.isDirectory? place ≠ .ok true) : Adding world file directories raw (.crashed world cause)
  | missing (fails : ∀ place, world.environment.place world.system raw = .ok place →
      world.system.isDirectory? place ≠ .ok true) : Adding world file directories raw
      (.failure world (printedString "Error: Directory does not exist!"))
  | known {place : Path} (notes : List Note) (isPlace : world.environment.place world.system raw = .ok place)
    (isDirectory : world.system.isDirectory? place = .ok true)
    (stored : String.ofList place.text ∈ directories) : Adding world file directories raw
      ((Outcome.success world (directoryMessage place.text "is already stored.")).after notes)
  | saved {place : Path} {after : System} (notes : List Note)
    (isPlace : world.environment.place world.system raw = .ok place)
    (isDirectory : world.system.isDirectory? place = .ok true)
    (new : String.ofList place.text ∉ directories)
    (written : Store.write world.system file (directories ++ [String.ofList place.text]) = .ok after) :
    Adding world file directories raw
      ((Outcome.success (world.withSystem after) (directoryMessage place.text "has been saved!")).after notes)

theorem adding (world : World) (holds : Holds usualRoom world.system file directories) (raw : List Char) :
    Adding world file directories raw (addDirectory world file raw) := by
  unfold addDirectory
  cases isPlace : world.environment.place world.system raw with
  | error e => exact .crashed (.place e) fun place same => nomatch isPlace.symm.trans same
  | ok place =>
    dsimp only
    have fails (no : world.system.isDirectory? place ≠ .ok true) :
        ∀ other, world.environment.place world.system raw = .ok other →
          world.system.isDirectory? other ≠ .ok true := by
      intro other same
      cases isPlace.symm.trans same
      exact no
    -- A crash and a missing directory differ in their ending only: neither is a place to store.
    cases isDirectory : world.system.isDirectory? place with
    | error e => exact .crashed (.place (.files e)) (fails (by simp [isDirectory]))
    | ok isThere =>
      cases isThere with
      | false => exact .missing (fails (by simp [isDirectory]))
      | true =>
        obtain ⟨notes, ⟨unchanged, outcome⟩ | ⟨others, after, changed, written, outcome⟩⟩ :=
          afterChange_update holds (directoryMessage place.text "has been saved!")
            (.success world (directoryMessage place.text "is already stored."))
            (Record.add? (String.ofList place.text))
        all_goals
          dsimp only
          unfold addPlace Store.add
          rw [outcome]
        · exact .known notes isPlace isDirectory (Record.add?_eq_none.mp unchanged)
        · obtain ⟨new, rfl⟩ := Record.add?_eq_some.mp changed
          exact .saved notes isPlace isDirectory new written

/-- A directory that has not been stored is written behind the others. -/
theorem Adding.of_new {raw : List Char} {place : Path} {outcome : Outcome}
    (added : Adding world file directories raw outcome)
    (isPlace : world.environment.place world.system raw = .ok place)
    (isDirectory : world.system.isDirectory? place = .ok true)
    (new : String.ofList place.text ∉ directories) :
    Store.write world.system file (directories ++ [String.ofList place.text]) = .ok outcome.system := by
  cases added with
  | crashed cause fails | missing fails => exact absurd isDirectory (fails _ isPlace)
  | known notes otherPlace otherDirectory stored =>
    cases isPlace.symm.trans otherPlace
    exact absurd stored new
  | saved notes otherPlace otherDirectory otherNew written =>
    cases isPlace.symm.trans otherPlace
    exact written

/-- What removing a typed directory comes to. -/
inductive Removing (world : World) (file : Path) (directories : Record) (raw : List Char) : Outcome → Prop where
  | crashed (notes : List Note) (cause : Crash)
    (fails : ∀ place, world.environment.place world.system raw ≠ .ok place)
    (new : String.ofList raw ∉ directories) :
    Removing world file directories raw ((Outcome.crashed world cause).after notes)
  | unknown {place : Path} {output : List Char} (notes : List Note)
    (isPlace : world.environment.place world.system raw = .ok place)
    (new : String.ofList raw ∉ directories) (newPlace : String.ofList place.text ∉ directories) :
    Removing world file directories raw ((Outcome.failure world output).after notes)
  | asTyped {after : System} (notes : List Note) (stored : String.ofList raw ∈ directories)
    (written : Store.write world.system file (directories.erase (String.ofList raw)) = .ok after) :
    Removing world file directories raw
      ((Outcome.success (world.withSystem after) (directoryMessage raw "has been removed.")).after notes)
  | byPlace {place : Path} {after : System} (notes : List Note)
    (isPlace : world.environment.place world.system raw = .ok place)
    (new : String.ofList raw ∉ directories) (stored : String.ofList place.text ∈ directories)
    (written : Store.write world.system file (directories.erase (String.ofList place.text)) = .ok after) :
    Removing world file directories raw
      ((Outcome.success (world.withSystem after) (directoryMessage raw "has been removed.")).after notes)

theorem removing (world : World) (holds : Holds usualRoom world.system file directories) (raw : List Char) :
    Removing world file directories raw (removeDirectory world file raw) := by
  unfold removeDirectory Store.remove
  obtain ⟨notes, ⟨unchanged, outcome⟩ | ⟨others, after, changed, written, outcome⟩⟩ :=
    afterChange_update holds (directoryMessage raw "has been removed.") (removePlace world file raw)
      (Record.remove? (String.ofList raw))
  -- Only a directory that is not stored as it has been typed is looked for by its place.
  · rw [outcome]
    have new := Record.remove?_eq_none.mp unchanged
    unfold removePlace Store.remove
    cases isPlace : world.environment.place world.system raw with
    | error e => exact .crashed notes (.place e) (fun place same => nomatch isPlace.symm.trans same) new
    | ok place =>
      dsimp only
      obtain ⟨moreNotes, ⟨unchanged, outcome⟩ | ⟨others, after, changed, written, outcome⟩⟩ :=
        afterChange_update holds (directoryMessage raw "has been removed.")
          (.failure world (laidOut (within "red" ("❌ Not a stored directory: ".toList ++ raw))))
          (Record.remove? (String.ofList place.text))
      · rw [outcome, Outcome.after_after]
        exact .unknown (notes ++ moreNotes) isPlace new (Record.remove?_eq_none.mp unchanged)
      · obtain ⟨stored, rfl⟩ := Record.remove?_eq_some.mp changed
        rw [outcome, Outcome.after_after]
        exact .byPlace (notes ++ moreNotes) isPlace new stored written
  · obtain ⟨stored, rfl⟩ := Record.remove?_eq_some.mp changed
    rw [outcome]
    exact .asTyped notes stored written

@[simp] theorem Outcome.system_stopped (world : World) (e : Store.StoreError) :
    (Outcome.stopped world e).system = world.system := by
  cases e <;> rfl

theorem system_listDirectories (world : World) (file : Path) :
    (listDirectories world file).system = world.system := by
  unfold listDirectories
  cases Store.read usualRoom world.system file with
  | error e => exact Outcome.system_stopped world e
  | ok stored => rfl

theorem system_ofReport (world : World) (parts : List Report.Part) :
    (ofReport world parts).system = world.system := by
  unfold ofReport
  split <;> rfl

theorem system_analyzeDirectories (world : World) (file : Path) (top : Nat) :
    (analyzeDirectories world file top).system = world.system := by
  unfold analyzeDirectories
  cases Store.read usualRoom world.system file with
  | error e => exact Outcome.system_stopped world e
  | ok stored =>
    dsimp only [Outcome.after]
    split
    · rfl
    · exact system_ofReport world _

/-- What a command does with the files: nothing, or it writes the store with a new directory that it has
been given, or without one. -/
inductive Effect (world : World) (file : Path) (directories : Record) : Command → System → Prop where
  | nothing {command : Command} : Effect world file directories command world.system
  | adds {raw : List Char} {place : Path} {after : System}
    (isPlace : world.environment.place world.system raw = .ok place)
    (isDirectory : world.system.isDirectory? place = .ok true)
    (new : String.ofList place.text ∉ directories)
    (written : Store.write world.system file (directories ++ [String.ofList place.text]) = .ok after) :
    Effect world file directories (.add raw) after
  | removes {raw : List Char} {directory : String} {after : System}
    (written : Store.write world.system file (directories.erase directory) = .ok after) :
    Effect world file directories (.remove raw) after

theorem perform_effect (world : World) (holds : Holds usualRoom world.system file directories)
    (command : Command) :
    Effect world file directories command (perform world file command).system := by
  cases command with
  | add raw =>
    have added := adding world holds raw
    change Effect world file directories (.add raw) (addDirectory world file raw).system
    generalize addDirectory world file raw = outcome at added
    cases added with
    | saved notes isPlace isDirectory new written => exact .adds isPlace isDirectory new written
    | _ => exact .nothing
  | remove raw =>
    have removed := removing world holds raw
    change Effect world file directories (.remove raw) (removeDirectory world file raw).system
    generalize removeDirectory world file raw = outcome at removed
    cases removed with
    | asTyped notes stored written => exact .removes written
    | byPlace notes isPlace new stored written => exact .removes written
    | _ => exact .nothing
  | list =>
    rw [perform, system_listDirectories]
    exact .nothing
  | analyze top =>
    rw [perform, system_analyzeDirectories]
    exact .nothing
  | version => exact .nothing

/-! ## Any number of calls -/

/-- After any number of calls there is a store with some directories, or a place for one. -/
theorem Reached.start {allowed : Call → System → Prop} (start : Start usualRoom origin file directories)
    (reached : Reached allowed file origin system) : ∃ others, Start usualRoom system file others := by
  induction reached with
  | origin => exact ⟨directories, start⟩
  | @call system call _ sees _ inductionHypothesis =>
    obtain ⟨known, start⟩ := inductionHypothesis
    obtain ⟨prepared, -, -, holds, run⟩ := Call.run_eq start sees
    have effect := perform_effect (call.world prepared) holds call.command
    rw [run]
    generalize (perform (call.world prepared) file call.command).system = after at effect
    generalize call.command = command at effect
    cases effect with
    | nothing => exact ⟨known, holds.start⟩
    | adds isPlace isDirectory new written => exact ⟨_, (holds.of_write enoughRoom written).1.start⟩
    | removes written => exact ⟨_, (holds.of_write enoughRoom written).1.start⟩

end ProjectGauge
