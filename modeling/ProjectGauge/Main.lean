import ProjectGauge.Command.Run
import ProjectGauge.Environment.Accounts
import Std.Time.DateTime.Timestamp

/-!
# The program

The outer layer looks at the files that a run is about, lets the run happen in the world that it has
seen, writes the store if the run has changed it, and prints what the run says.
-/

namespace ProjectGauge.Main

open Files

/-! ## Looking at files -/

/-- The entry of a name in the directory at a place. -/
def entryOf (place : List Name) (name : Name) : IO.FS.DirEntry :=
  { root := String.ofList (Path.ofNames place).text, fileName := String.ofList name }

/-- What is known of an entry, which is not followed if it is a link. -/
def status? (entry : IO.FS.DirEntry) : IO (Option IO.FS.Metadata) := do
  try return some (← entry.path.symlinkMetadata) catch _ => return none

/-- The canonical place of an entry. -/
def target? (entry : IO.FS.DirEntry) : IO (Option (List Name)) := do
  try return some (namesIn (← IO.FS.realPath entry.path).toString.toList) catch _ => return none

/-- The content of a file. Only that of manifests, stores and sources is read; of any other the size is
enough. -/
def contentOf (entry : IO.FS.DirEntry) (status : IO.FS.Metadata) : IO Content := do
  let name := entry.fileName.toList
  if name == Manifest.fileName || sourceSuffixes.contains (suffix name) then
    try return .ofBytes (← IO.FS.readBinFile entry.path).toList
    catch _ => return ⟨[], status.byteSize.toNat⟩
  else return ⟨[], status.byteSize.toNat⟩

def withDirectory (system : System) (place : List Name) : System :=
  if (system.at? place).any Node.isDirectory then system else system.set place (.directory .nil)

/-- The target of a link that leads nowhere. -/
def nowhere : List Char := "/dev/null/nowhere".toList

/-- The system with an entry that is no link, at its place. -/
def lookHere (system : System) (place : List Name) (entry : IO.FS.DirEntry) : IO System := do
  match ← status? entry with
  | none => return system
  | some status =>
    match status.type with
    | .dir => return withDirectory system place
    | _ => return system.set place (.file (← contentOf entry status))

/-- The system with a link at a place and with what it leads to, which has a canonical place. -/
def lookThrough (system : System) (place : List Name) (entry : IO.FS.DirEntry) :
    IO (System × Option (List Name)) := do
  match ← target? entry with
  | none => return (system.set place (.link nowhere), none)
  | some goal =>
    let system := system.set place (.link (Path.ofNames goal).text)
    return (← lookHere system goal (entryOf goal.dropLast (goal.getLastD self)), some goal)

/-- The system with what stands along names from a canonical place on. -/
def lookAlong (system : System) : List Name → List Name → IO System
  | _, [] => return system
  | place, name :: rest => do
    if name = parent then lookAlong system place.dropLast rest
    else
      let entry := entryOf place name
      let next := place ++ [name]
      match ← status? entry with
      | none => return system
      | some status =>
        match status.type with
        | .symlink =>
          match ← lookThrough system next entry with
          | (system, some goal) => lookAlong system goal rest
          | (system, none) => return system
        | _ => lookAlong (← lookHere system next entry) next rest

/-- The system with what stands along a path. -/
def lookAt (system : System) (path : Path) : IO System :=
  lookAlong system (system.startOf path) path.names

/-- The system with everything below a place but what a scan passes over. -/
partial def lookBelow (system : System) (place : List Name) : IO System := do
  let mut system := withDirectory system place
  for entry in ← (entryOf place self).path.readDir do
    let name := entry.fileName.toList
    let next := place ++ [name]
    match (← status? entry).map IO.FS.Metadata.type with
    | none => pure ()
    | some .symlink => system := (← lookThrough system next entry).1
    | some .dir =>
      if isHidden name || excludedDirectories.contains name then
        system := withDirectory system next
      else system ← lookBelow system next
    | some _ => system ← lookHere system next entry
  return system

/-- The system with everything in a directory, if it can be listed. -/
def lookInto (system : System) (path : Path) : IO System := do
  let system ← lookAt system path
  match system.walk .existing path with
  | .ok place => try lookBelow system place catch _ => return system
  | .error _ => return system

/-- The system with the bytes of the file at a path. -/
def lookInside (system : System) (path : Path) : IO System := do
  let system ← lookAt system path
  try
    let bytes ← IO.FS.readBinFile (String.ofList path.text)
    return (system.write path (.ofBytes bytes.toList)).toOption.getD system
  catch _ => return system

/-! ## Looking at the environment -/

/-- The variables that a run asks for. -/
def readBindings : IO (List (String × String)) := do
  let names := "USER" :: Environment.homeVariables ++ Settings.variableFields.map Prod.fst
  let values ← names.mapM fun name => do return (← IO.getEnv name).map fun value => (name, value)
  return values.filterMap id

/-- The environment of the run. -/
def readEnvironment : IO Environment := do
  let bindings ← readBindings
  let accounts ← try
      pure (accountsIn (← IO.FS.readFile "/etc/passwd").toList)
    catch _ => pure []
  let own := (bindings.lookup "USER").getD "root"
  return ⟨bindings, accounts, (accounts.lookup own).getD "/"⟩

/-- The seconds since the epoch. -/
def now : IO Int := do
  return (← Std.Time.Timestamp.now).toSecondsSinceUnixEpoch.val

/-- The clock of a directory: now, and when its entries last changed. -/
def readClock (directory : String) : IO Clock := do
  let now ← now
  try
    let status ← (← IO.FS.realPath directory).metadata
    return ⟨.whole now, .whole status.modified.sec⟩
  catch _ => return ⟨.whole now, .whole now⟩

/-- The rest of an input. -/
partial def readInput (stream : IO.FS.Stream) : IO String := do
  let line ← stream.getLine
  if line.isEmpty then return "" else return line ++ (← readInput stream)

/-! ## A run -/

/-- The file that a command line has its store in. -/
def storeFile? (environment : Environment) (words : List Word) : Option Path := do
  let options ← (Options.read sharedForms false words).toOption
  let settings ← (Settings.ofEnvironment environment).toOption
  (storeFileOf environment options settings).toOption

/-- A command line asks a question. -/
def asks (words : List Word) : Bool :=
  match Options.read sharedForms false words with
  | .ok options => options.words.isEmpty && !options.has helpForm.name
  | .error _ => false

/-- The stored directories that a command line is about. -/
def analyzed (system : System) (words : List Word) : Option Path → List String
  | some file =>
    if words.contains Verb.analyze.word.toList then
      ((Store.read Json.usualRoom system file).toOption.map Noted.value).getD []
    else []
  | none => []

def lookForTyped (environment : Environment) (system : System) (typed : List Word) : IO System :=
  typed.foldlM (fun system word =>
    match environment.typedText word with
    | .ok text => lookAt system (Path.parse text)
    | .error _ => return system) system

/-- The world that a command line is about. -/
def look (words : List Word) (input : List Char) : IO World := do
  let environment ← readEnvironment
  let here := namesIn (← IO.currentDir).toString.toList
  let file := storeFile? environment words
  let mut system ← lookAlong ⟨.nil, here⟩ [] here
  system ← lookForTyped environment system (words ++ inputLines input)
  if let some file := file then system ← lookInside system file
  let directories := analyzed system words file
  for directory in directories do
    system ← lookInto system (Path.parse directory.toList)
  let clocks ← directories.mapM fun directory => do return (directory, ← readClock directory)
  let now ← now
  return ⟨system, environment,
    fun directory => (clocks.lookup directory).getD ⟨.whole now, .whole now⟩⟩

/-- Writes the store if a run has changed it. -/
def keep (world : World) (words : List Word) (outcome : Outcome) : IO Unit := do
  if let some file := storeFile? world.environment words then
    let before := (world.system.bytesAt file).toOption
    let after := (outcome.system.bytesAt file).toOption
    if before != after then
      if let some bytes := after then
        IO.FS.createDirAll (String.ofList file.parentPath.text)
        IO.FS.writeBinFile (String.ofList file.text) (ByteArray.mk bytes.toArray)

/-- The last words of a run that has not done what was asked. -/
def lastWords : RunEnd → Option String
  | .exit _ => none
  | .usage error => some error.message
  | .crash cause => some cause.message

/-- The run of a command line. -/
def runProgram (arguments : List String) : IO UInt32 := do
  let words := arguments.map String.toList
  let input ← if asks words then readInput (← IO.getStdin) else pure ""
  let world ← look words input.toList
  let outcome := run world words input.toList
  keep world words outcome
  IO.print (String.ofList outcome.output)
  for note in outcome.notes do IO.eprintln note.text
  if let some message := lastWords outcome.ending then IO.eprintln message
  return outcome.ending.code.toUInt32

end ProjectGauge.Main

/-- The program. -/
def main (arguments : List String) : IO UInt32 :=
  ProjectGauge.Main.runProgram arguments
