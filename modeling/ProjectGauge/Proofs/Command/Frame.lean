import ProjectGauge.Proofs.Command.Call

/-!
# What a run leaves alone

A run writes its store only to add a new directory or to remove a stored one.  Whatever else it does, and
however it ends, no file changes.

* `command?` is the command that a run carries out, `storeFile?` the file of its store.
* `Changes` says which commands have something to write.
* `Course` says what a run does with its store, and `course` that every run has a course.
* `run_leaves_store`: a run without something to write leaves the store as it was.
-/

namespace ProjectGauge

open Files Console
open Json (usualRoom)

/-! ## What a run is asked for -/

/-- The command of the words behind the shared options.  Without any, the answer to the question is added. -/
def commandIn? (input : List Char) : List Word → Option Command
  | [] => (ask (inputLines input)).2.map .add
  | word :: words => do
    let verb ← Verb.ofWord? word
    (← (Command.read verb words).toOption)

def command? (words : List Word) (input : List Char) : Option Command := do
  let options ← (Options.read sharedForms false words).toOption
  if options.has helpForm.name then none else commandIn? input options.words

/-- The file of the store that a command line is about. -/
def storeFile? (world : World) (words : List Word) : Option Path := do
  let options ← (Options.read sharedForms false words).toOption
  let settings ← (Settings.ofEnvironment world.environment).toOption
  (storeFileOf world.environment options settings).toOption

/-- A command has something to write to a store with some directories: a new directory that is there, or
the others without a stored one, which is given as it is stored or by its place. -/
inductive Changes (world : World) (directories : Record) : Command → Prop where
  | add {raw : List Char} {place : Path} (isPlace : world.environment.place world.system raw = .ok place)
    (isDirectory : world.system.isDirectory? place = .ok true)
    (new : String.ofList place.text ∉ directories) : Changes world directories (.add raw)
  | removeTyped {raw : List Char} (stored : String.ofList raw ∈ directories) :
    Changes world directories (.remove raw)
  | removePlace {raw : List Char} {place : Path}
    (isPlace : world.environment.place world.system raw = .ok place)
    (stored : String.ofList place.text ∈ directories) : Changes world directories (.remove raw)

/-- An outcome leaves all files as they were, and a store with its bytes. -/
structure LeavesAlone (world : World) (file : Path) (bytes : List UInt8) (outcome : Outcome) : Prop where
  files : outcome.system = world.system
  bytes : outcome.system.bytesAt file = .ok bytes

variable {world : World} {words : List Word} {input : List Char} {file : Path} {directories : Record}
  {content : Content}

/-! ## The course of a run -/

/-- What a run does with its store: it does not get as far as that, or it does nothing with it, or it
carries out its command on it. -/
inductive Course (world : World) (words : List Word) (input : List Char) : Outcome → Prop where
  | aside {outcome : Outcome} (same : outcome.system = world.system) : Course world words input outcome
  | idle {file : Path} {next : World → Outcome} (isFile : storeFile? world words = some file)
    (idle : ∀ world, (next world).system = world.system) :
    Course world words input (withStore world file next)
  | carried {file : Path} {command : Command} (isFile : storeFile? world words = some file)
    (isCommand : command? words input = some command) (shown : List Char) :
    Course world words input (withStore world file fun world => (perform world file command).behind shown)

theorem Outcome.behind_nil (outcome : Outcome) : outcome.behind [] = outcome := by
  simp [Outcome.behind]

theorem system_withoutSettings (world : World) (e : SettingsError) :
    (withoutSettings world e).system = world.system := by
  cases e <;> rfl

theorem system_withoutStore (world : World) (file : Path) (e : Files.Error) :
    (withoutStore world file e).system = world.system := by
  unfold withoutStore
  dsimp only
  split <;> rfl

theorem system_withoutVerb (world : World) (word : Word) (words : List Word) :
    (withoutVerb world word words).system = world.system := by
  unfold withoutVerb
  split
  · rfl
  · split <;> rfl

/-- A run that starts goes on with its store, unless that cannot be told. -/
theorem course_start {options : Options} {next : World → Path → Outcome}
    (read : Options.read sharedForms false words = .ok options)
    (goes : ∀ file, storeFile? world words = some file →
      Course world words input (withStore world file fun world => next world file)) :
    Course world words input (start world options next) := by
  unfold start
  cases isSet : Settings.ofEnvironment world.environment with
  | error e => exact .aside (system_withoutSettings world e)
  | ok settings =>
    dsimp only
    cases isFile : storeFileOf world.environment options settings with
    | error e => exact .aside rfl
    | ok file =>
      refine goes file ?_
      unfold storeFile?
      rw [read, isSet]
      exact congrArg Except.toOption isFile

/-- Without a command, the answer is added if there is one. -/
theorem course_addAsked (isFile : storeFile? world words = some file)
    (isCommand : command? words input = commandIn? input []) :
    Course world words input (withStore world file fun world => addAsked world file input) := by
  cases answer : (ask (inputLines input)).2 with
  | none =>
    refine .idle isFile fun world => ?_
    unfold addAsked
    dsimp only
    rw [answer]
    rfl
  | some raw =>
    unfold commandIn? at isCommand
    rw [answer] at isCommand
    have asked (world : World) : addAsked world file input = (perform world file (.add raw)).behind
        (printedString "Welcome to Directory Analyzer!" ++ (ask (inputLines input)).1) := by
      unfold addAsked
      dsimp only
      rw [answer]
      rfl
    simp only [asked]
    exact .carried isFile isCommand _

theorem course_performVerb {word : Word} {others : List Word} {verb : Verb}
    (isVerb : Verb.ofWord? word = some verb) (isFile : storeFile? world words = some file)
    (isCommand : command? words input = commandIn? input (word :: others)) :
    Course world words input (withStore world file fun world => performVerb verb others world file) := by
  unfold performVerb
  cases isRead : Command.read verb others with
  | error e => exact .idle isFile fun _ => rfl
  | ok command =>
    cases command with
    | none => exact .idle isFile fun _ => rfl
    | some command =>
      have known : commandIn? input (word :: others) = some command := by
        rw [commandIn?, isVerb]
        change (Command.read verb others).toOption.bind _ = _
        rw [isRead]
        rfl
      have carried := Course.carried isFile (isCommand.trans known) []
      simpa only [Outcome.behind_nil] using carried

/-- Every run has a course. -/
theorem course (world : World) (words : List Word) (input : List Char) :
    Course world words input (run world words input) := by
  unfold run
  cases read : Options.read sharedForms false words with
  | error e => exact .aside rfl
  | ok options =>
    dsimp only
    by_cases help : options.has helpForm.name = true
    · rw [if_pos help]
      exact .aside rfl
    · have isCommand : command? words input = commandIn? input options.words := by
        unfold command?
        rw [read]
        exact if_neg help
      rw [if_neg help]
      cases impossibleFile? options with
      | some name => exact .aside rfl
      | none =>
        dsimp only
        unfold runWith
        cases given : options.words with
        | nil => exact course_start read fun file isFile => course_addAsked isFile (given ▸ isCommand)
        | cons word others =>
          dsimp only
          cases isVerb : Verb.ofWord? word with
          | none => exact .aside (system_withoutVerb world word others)
          | some verb =>
            exact course_start read fun file isFile =>
              course_performVerb isVerb isFile (given ▸ isCommand)

/-! ## A store that is there -/

/-- A store that is there is found as it is, unless its path has no name. -/
theorem withStore_regular (found : world.system.nodeAt file = .ok (.file content)) (next : World → Outcome) :
    (withStore world file next).system = world.system ∨
      file.names ≠ [] ∧ withStore world file next = next world := by
  by_cases named : file.names = []
  · -- A path without names is its own directory, which cannot be made where there is a file.
    obtain ⟨place, leads, isThere⟩ := System.nodeAt_iff.mp found
    have noDirectory : world.system.isDirectory? file = .ok false := by
      unfold System.isDirectory?
      rw [found]
      rfl
    have isParent : file.parentPath = file := by
      unfold Path.parentPath
      rw [named]
      exact congrArg (Files.Path.mk file.anchor) named.symm
    have refused : Store.prepare world.system file = .error (.refused .exists file.text) := by
      unfold Store.prepare System.makeDirectories
      rw [isParent, named, List.length_nil, System.makeDirectoryBelow,
        System.create_known leads (by rw [isThere]; rfl), System.settleDirectory, noDirectory]
      rfl
    left
    unfold withStore
    rw [refused]
    exact system_withoutStore world file _
  · refine .inr ⟨named, ?_⟩
    unfold withStore
    rw [Store.prepare_regular named found]
    rfl

/-- Whatever a command does with a store that cannot be read, the files stay as they are. -/
theorem system_perform_unread {e : Store.StoreError}
    (unread : Store.read usualRoom world.system file = .error e) (command : Command) :
    (perform world file command).system = world.system := by
  have updated (change : Record → Option Record) :
      Store.update usualRoom world.system file change = .plain (.error e) := by
    unfold Store.update
    rw [unread]
  cases command with
  | add raw =>
    unfold perform addDirectory
    dsimp only
    split
    · rfl
    · split
      · rfl
      · rfl
      · unfold addPlace Store.add
        rw [updated]
        exact Outcome.system_stopped world e
  | remove raw =>
    unfold perform removeDirectory Store.remove
    dsimp only
    rw [updated]
    exact Outcome.system_stopped world e
  | list => exact system_listDirectories world file
  | analyze top => exact system_analyzeDirectories world file top
  | version => rfl

/-- A command leaves the files alone, or has something to write and succeeds. -/
theorem perform_frame (holds : Store.Holds usualRoom world.system file directories) (command : Command) :
    (perform world file command).system = world.system ∨
      (perform world file command).ending.code = successCode ∧ Changes world directories command := by
  cases command with
  | add raw =>
    have added := adding world holds raw
    change (addDirectory world file raw).system = _ ∨ (addDirectory world file raw).ending.code = _ ∧ _
    generalize addDirectory world file raw = outcome at added
    cases added with
    | saved notes isPlace isDirectory new written => exact .inr ⟨rfl, .add isPlace isDirectory new⟩
    | _ => exact .inl rfl
  | remove raw =>
    have removed := removing world holds raw
    change (removeDirectory world file raw).system = _ ∨ (removeDirectory world file raw).ending.code = _ ∧ _
    generalize removeDirectory world file raw = outcome at removed
    cases removed with
    | asTyped notes stored written => exact .inr ⟨rfl, .removeTyped stored⟩
    | byPlace notes isPlace new stored written => exact .inr ⟨rfl, .removePlace isPlace stored⟩
    | _ => exact .inl rfl
  | list => exact .inl (system_listDirectories world file)
  | analyze top => exact .inl (system_analyzeDirectories world file top)
  | version => exact .inl rfl

/-- So does a command on a file, whose brackets there may be no room for. -/
theorem perform_regular (named : file.names ≠ []) (found : world.system.nodeAt file = .ok (.file content))
    (command : Command) :
    (perform world file command).system = world.system ∨
      (perform world file command).ending.code = successCode ∧
        Changes world (Store.directoriesIn content.allBytes) command := by
  by_cases shallow : Store.IsShallow usualRoom content.allBytes
  · exact perform_frame ⟨named, content, found, shallow, rfl⟩ command
  · obtain ⟨container, deep⟩ := Store.recordOf_deep shallow file
    have unread : Store.read usualRoom world.system file = .error (.tooDeep container) := by
      unfold Store.read
      rw [System.bytesAt_of_nodeAt found]
      exact deep
    exact .inl (system_perform_unread unread command)

/-- A run on a store that is there leaves the files alone, or its command has something to write. -/
theorem run_frame (found : world.system.nodeAt file = .ok (.file content))
    (isStore : ∀ other, storeFile? world words = some other → other = file) (input : List Char) :
    (run world words input).system = world.system ∨
      (run world words input).ending.code = successCode ∧ ∃ command, command? words input = some command ∧
        Changes world (Store.directoriesIn content.allBytes) command := by
  have course := course world words input
  generalize run world words input = outcome at course
  cases course with
  | aside same => exact .inl same
  | @idle other next isFile idle =>
    cases isStore other isFile
    obtain same | ⟨-, known⟩ := withStore_regular found next
    · exact .inl same
    · exact .inl (by rw [known, idle])
  | @carried other command isFile isCommand shown =>
    cases isStore other isFile
    obtain same | ⟨named, known⟩ :=
      withStore_regular found fun world => (perform world file command).behind shown
    · exact .inl same
    · rw [known]
      obtain same | ⟨succeeds, changes⟩ := perform_regular named found command
      · exact .inl same
      · exact .inr ⟨succeeds, command, isCommand, changes⟩

/-- Whatever bytes a store has, a run leaves them and all other files as they are, unless it adds a new
directory that is there or removes a stored one.  So does a run that fails, one that lists, analyzes or tells
the version, and one that adds a stored directory. -/
theorem run_leaves_store (found : world.system.nodeAt file = .ok (.file content))
    (isStore : ∀ other, storeFile? world words = some other → other = file) (input : List Char) :
    ((∀ command, command? words input = some command →
        ¬ Changes world (Store.directoriesIn content.allBytes) command) →
      LeavesAlone world file content.allBytes (run world words input)) ∧
    ((run world words input).ending.code ≠ successCode →
      LeavesAlone world file content.allBytes (run world words input)) ∧
    (∀ command, command? words input = some command →
      (command = .list ∨ (∃ top, command = .analyze top) ∨ command = .version) →
      LeavesAlone world file content.allBytes (run world words input)) ∧
    (∀ raw place, command? words input = some (.add raw) →
      world.environment.place world.system raw = .ok place →
      String.ofList place.text ∈ Store.directoriesIn content.allBytes →
      LeavesAlone world file content.allBytes (run world words input)) := by
  have leaves (same : (run world words input).system = world.system) :
      LeavesAlone world file content.allBytes (run world words input) :=
    ⟨same, by rw [same]; exact System.bytesAt_of_nodeAt found⟩
  have frame := run_frame found isStore input
  have idle (nothing : ∀ command, command? words input = some command →
      ¬ Changes world (Store.directoriesIn content.allBytes) command) :
      LeavesAlone world file content.allBytes (run world words input) := by
    obtain same | ⟨-, command, isCommand, changes⟩ := frame
    · exact leaves same
    · exact absurd changes (nothing command isCommand)
  refine ⟨idle, fun fails => ?_, fun command isCommand kind => idle fun other isOther changes => ?_,
    fun raw place isCommand isPlace stored => idle fun other isOther changes => ?_⟩
  · obtain same | ⟨succeeds, -⟩ := frame
    · exact leaves same
    · exact absurd succeeds fails
  · cases isCommand.symm.trans isOther
    obtain rfl | ⟨top, rfl⟩ | rfl := kind <;> cases changes
  · cases isCommand.symm.trans isOther
    cases changes with
    | add otherPlace isDirectory new =>
      cases isPlace.symm.trans otherPlace
      exact new stored

/-- A directory, and a store beside it with some bytes. -/
def worldWith (bytes : List UInt8) : World :=
  ⟨⟨.directory ['d'] .nil (.file ['s'] (.ofBytes bytes) .nil), []⟩, ⟨[], [], "/"⟩,
    fun _ => ⟨.whole 0, .whole 0⟩⟩

/-- A store that somebody has written by hand, with the directory in it. -/
def handwritten : List UInt8 :=
  Text.Utf8.encode "\x7b\"x\": 1,\t\"directories\" : [ \"/d\"]\x7d".toList

/-- Bytes that are no store are kept where there is nothing to remove, and a store written by hand is kept
where its directory is added again. -/
theorem run_leaves_store_sample :
    (LeavesAlone (worldWith [0xff, 0x7b]) ⟨.here, [['s']]⟩ [0xff, 0x7b]
      (run (worldWith [0xff, 0x7b]) ["-c".toList, "s".toList, "remove".toList, "d".toList] [])) ∧
    LeavesAlone (worldWith handwritten) ⟨.here, [['s']]⟩ handwritten
      (run (worldWith handwritten) ["-c".toList, "s".toList, "add".toList, " d/ ".toList] []) := by
  have isStore (bytes : List UInt8) (verb path : Word) (plain : Options.read sharedForms false
      ["-c".toList, "s".toList, verb, path] = .ok ⟨[], [("config", "s".toList)], [verb, path]⟩) (other : Path)
      (isOther : storeFile? (worldWith bytes) ["-c".toList, "s".toList, verb, path] = some other) :
      other = ⟨.here, [['s']]⟩ := by
    unfold storeFile? at isOther
    rw [plain] at isOther
    exact (Option.some.inj isOther).symm
  have fails : (run (worldWith [0xff, 0x7b])
      ["-c".toList, "s".toList, "remove".toList, "d".toList] []).ending.code ≠ successCode := by
    decide +kernel
  have isCommand : command? ["-c".toList, "s".toList, "add".toList, " d/ ".toList] [] =
      some (.add " d/ ".toList) := by
    decide +kernel
  have isPlace : (worldWith handwritten).environment.place (worldWith handwritten).system " d/ ".toList =
      .ok ⟨.root, [['d']]⟩ := by
    decide +kernel
  have stored : String.ofList (Path.text ⟨.root, [['d']]⟩) ∈ Store.directoriesIn handwritten := by
    decide +kernel
  have found (bytes : List UInt8) :
      (worldWith bytes).system.nodeAt ⟨.here, [['s']]⟩ = .ok (.file (.ofBytes bytes)) := rfl
  have kept := run_leaves_store (found [0xff, 0x7b]) (isStore _ "remove".toList ['d'] rfl) []
  have keptToo := run_leaves_store (found handwritten) (isStore _ "add".toList " d/ ".toList rfl) []
  rw [Store.allBytes_ofBytes] at kept keptToo
  exact ⟨kept.2.1 fails, keptToo.2.2.2 _ _ isCommand isPlace stored⟩

end ProjectGauge
