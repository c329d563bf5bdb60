import ProjectGauge.Command.Request
import ProjectGauge.Command.Outcome
import ProjectGauge.Report.Survey

/-!
# Runs

A run reads its settings, makes the store where there is none, and carries out the command. Without a
command it asks for a directory to add.

* `perform` carries out a command on a store.
* `run` is a whole run.
-/

namespace ProjectGauge

open Files Console

/-! ## Stored directories -/

/-- The outcome of a change to a store: a message if there is one, another outcome if there is nothing
to change. -/
def afterChange (world : World) (message : List Char)
    (otherwise : Outcome) (result : Noted (Except Store.StoreError (Option System))) : Outcome :=
  Outcome.after result.notes <|
    match result.value with
    | .ok (some system) => .success (world.withSystem system) message
    | .ok none => otherwise
    | .error e => .stopped world e

def directoryMessage (directory : List Char) (what : String) : List Char :=
  printed ("Directory \"".toList ++ directory ++ "\" ".toList ++ what.toList)

/-- Adds a directory that is there already resolved. -/
def addPlace (world : World) (file : Path) (place : Path) : Outcome :=
  afterChange world (directoryMessage place.text "has been saved!")
    (.success world (directoryMessage place.text "is already stored."))
    (Store.add Json.usualRoom world.system file (String.ofList place.text))

/-- Adds a typed directory, which has to exist. -/
def addDirectory (world : World) (file : Path) (raw : List Char) : Outcome :=
  match world.environment.place world.system raw with
  | .error e => .crashed world (.place e)
  | .ok place =>
    match world.system.isDirectory? place with
    | .error e => .blocked world e
    | .ok false => .failure world (printedString "Error: Directory does not exist!")
    | .ok true => addPlace world file place

/-- Removes a directory by the canonical place of what was typed. -/
def removePlace (world : World) (file : Path) (raw : List Char) : Outcome :=
  match world.environment.place world.system raw with
  | .error e => .crashed world (.place e)
  | .ok place =>
    afterChange world (directoryMessage raw "has been removed.")
      (.failure world (laidOut (within "red" ("❌ Not a stored directory: ".toList ++ raw))))
      (Store.remove Json.usualRoom world.system file (String.ofList place.text))

/-- Removes a stored directory, which may be typed as it is stored or in another way. -/
def removeDirectory (world : World) (file : Path) (raw : List Char) : Outcome :=
  afterChange world (directoryMessage raw "has been removed.") (removePlace world file raw)
    (Store.remove Json.usualRoom world.system file (String.ofList raw))

/-- The numbered line of a stored directory. -/
def listLine (place : Nat) (directory : String) : List Char :=
  printedString (Text.intString place ++ ". " ++ directory)

def listDirectories (world : World) (file : Path) : Outcome :=
  match Store.read Json.usualRoom world.system file with
  | .error e => .stopped world e
  | .ok stored =>
    Outcome.after stored.notes <| .success world <|
      printedString "\nStored directories:" ++
        stored.value.zipIdx.flatMap fun (directory, index) => listLine (index + 1) directory

/-! ## Analysis -/

def ofReport (world : World) (parts : List Report.Part) : Outcome :=
  match Report.untilFailure parts with
  | (output, none) => .success world output
  | (output, some e) =>
    .failure world (output ++ laidOut ('\n' :: within "red" ("❌ Error: " ++ e.message).toList))

def analyzeAll (world : World) (top : Nat) (directories : List String) : Outcome :=
  let surveys := directories.map fun directory =>
    Project.survey world.system (world.clock directory) directory
  Outcome.after (surveys.flatMap Noted.notes) <|
    ofReport world (Report.analysisParts top (surveys.map Noted.value))

def analyzeDirectories (world : World) (file : Path) (top : Nat) : Outcome :=
  match Store.read Json.usualRoom world.system file with
  | .error e => .stopped world e
  | .ok stored =>
    Outcome.after stored.notes <|
      if stored.value.isEmpty then
        .success world
          (printedString "No stored directories. Add one with: diranalyzer add <path>")
      else analyzeAll world top stored.value

/-! ## Commands -/

def programVersion : String := "0.1.0"

/-- What the program says about itself. -/
def versionText : List Char :=
  printedString ("Directory Analyzer v" ++ programVersion) ++
    printedString "Directory and dependency importance scoring"

/-- Carries out a command on the store in a file. -/
def perform (world : World) (file : Path) : Command → Outcome
  | .add path => addDirectory world file path
  | .remove path => removeDirectory world file path
  | .list => listDirectories world file
  | .analyze top => analyzeDirectories world file top
  | .version => .success world versionText

/-! ## Questions -/

/-- The question for a directory. -/
def question : List Char :=
  "Please enter the path to the directory you want to analyze: ".toList

/-- What is asked and answered until a line is not empty, and that line. Answers are shown. -/
def ask : List (List Char) → List Char × Option (List Char)
  | [] => (question, none)
  | line :: rest =>
    let shown := question ++ line ++ ['\n']
    if line.isEmpty then
      let (further, answer) := ask rest
      (shown ++ further, answer)
    else (shown, some line)

/-- The lines of an input. A line feed at its end starts no further line. -/
def inputLines (input : List Char) : List (List Char) :=
  let lines := linesOf (Text.unifyNewlines input)
  if lines.getLast? == some [] then lines.dropLast else lines

def addAsked (world : World) (file : Path) (input : List Char) : Outcome :=
  let (shown, answer) := ask (inputLines input)
  Outcome.behind (printedString "Welcome to Directory Analyzer!" ++ shown) <|
    match answer with
    | some raw => addDirectory world file raw
    | none => .failure world []

/-! ## Whole runs -/

def storeFileOf (environment : Environment) (options : Options) (settings : Settings) :
    Except HomeError Path :=
  match options.value? storeFileForm.name, settings.storeFile with
  | some name, _ => environment.expandHome (Path.parse name)
  | none, some file => .ok file
  | none, none => Settings.standardStoreFile environment

/-- The outcome of a run whose store cannot be made. -/
def withoutStore (world : World) (file : Path) (error : Files.Error) : Outcome :=
  let message := tagOf "red".toList ++ "❌ Error: cannot initialize ".toList ++ file.text ++
    ": ".toList ++ escape error.message.toList ++ tagOf "/red".toList
  match plain message with
  | .ok text => .failure world (laidOut text)
  | .error e => .crashed world (.style e)

/-- Makes the store in a file and goes on with it. -/
def withStore (world : World) (file : Path) (next : World → Outcome) : Outcome :=
  match Store.prepare world.system file with
  | .ok system => next (world.withSystem system)
  | .error .nullCharacter => .blocked world .nullCharacter
  | .error e => withoutStore world file e

/-- The outcome of a run whose settings cannot be read. -/
def withoutSettings (world : World) : SettingsError → Outcome
  | .refused refusals =>
    .failure world <| laidOut <| within "red" <|
      ("❌ Error: invalid configuration: " ++ SettingsError.report refusals).toList
  | e => .crashed world (.settings e)

/-- Reads the settings, makes the store and goes on with the file that it is in. -/
def start (world : World) (options : Options) (next : World → Path → Outcome) : Outcome :=
  match Settings.ofEnvironment world.environment with
  | .error e => withoutSettings world e
  | .ok settings =>
    match storeFileOf world.environment options settings with
    | .error e => .crashed world (.place (.home e))
    | .ok file => withStore world file fun world => next world file

/-- Carries out the command of a verb with its words. -/
def performVerb (verb : Verb) (words : List Word) (world : World) (file : Path) : Outcome :=
  match Command.read verb words with
  | .ok (some command) => perform world file command
  | .ok none => .success world []
  | .error e => .misuse world e

/-- The outcome of words that start with no verb. They may still ask for help. -/
def withoutVerb (world : World) (word : Word) (words : List Word) : Outcome :=
  match Options.read sharedForms false (word :: words) with
  | .error e => .misuse world e
  | .ok options =>
    if options.has helpForm.name then .success world [] else .misuse world (.noSuchCommand word)

/-- A run with the options in front of its command. -/
def runWith (world : World) (options : Options) (input : List Char) : Outcome :=
  match options.words with
  | [] => start world options fun world file => addAsked world file input
  | word :: words =>
    match Verb.ofWord? word with
    | some verb => start world options (performVerb verb words)
    | none => withoutVerb world word words

/-- The store file that options name, if no file can have that name. -/
def impossibleFile? (options : Options) : Option Word :=
  (options.value? storeFileForm.name).filter fun name => name.contains '\x00'

/-- A run with the words of its command line and its input. -/
def run (world : World) (words : List Word) (input : List Char) : Outcome :=
  match Options.read sharedForms false words with
  | .error e => .misuse world e
  | .ok options =>
    if options.has helpForm.name then .success world []
    else
      match impossibleFile? options with
      | some name => .misuse world (.notAFile name)
      | none => runWith world options input

end ProjectGauge
