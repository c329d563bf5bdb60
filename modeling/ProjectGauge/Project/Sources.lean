import ProjectGauge.Files.Resolve
import ProjectGauge.Note

/-!
# Source files of a project

A scan of a project goes through all its directories but the hidden and the excluded ones, and through
no link. It visits every file that is not hidden; the source files are those with a source suffix. A
directory in which a path gets too long for the system is given up there, which is noted.

The walk calls itself for every directory. It is assumed that the interpreter has room for that, as it
has unless nearly a thousand directories that the walk goes into stand inside one another; what would
then break it off is no failure of the file system, and is not modelled.

* `findings` lists what a scan comes across, `visited` the files among it, with their names from the
  project on.
* `Project.sources` gives the source files of a project in the order of their names.
-/

namespace ProjectGauge

open Files

/-- A file below a project, by its names from the project on. -/
structure SourceFile where
  names : List Name
  content : Content
  deriving DecidableEq

namespace SourceFile

def path (file : SourceFile) : List Char :=
  relativeText file.names

def suffix (file : SourceFile) : List Char :=
  Files.suffix (file.names.getLastD [])

/-- The text of a file: its bytes with faults replaced, and one line feed for each line end. -/
def text (file : SourceFile) : List Char :=
  Text.unifyNewlines (Text.Utf8.decodeLossy file.content.allBytes)

end SourceFile

def sourceSuffixes : List (List Char) :=
  [".js", ".jsx", ".ts", ".tsx", ".mjs", ".cjs"].map String.toList

/-- The directories of installed packages, of build output and of caches. -/
def excludedDirectories : List Name :=
  ["node_modules", "dist", "build", ".git", "__pycache__", ".venv", "venv", ".next", ".nuxt",
    ".cache", "coverage"].map String.toList

/-- What a scan looks for. -/
structure ScanRule where
  suffixes : List (List Char)
  excluded : List Name

/-- The rule with its own value in the place of an empty list. -/
def ScanRule.ofLists (suffixes excluded : List (List Char)) : ScanRule :=
  ⟨if suffixes.isEmpty then sourceSuffixes else suffixes,
    if excluded.isEmpty then excludedDirectories else excluded⟩

/-- The rule for the sources of a project. -/
def ScanRule.standard : ScanRule :=
  ⟨sourceSuffixes, excludedDirectories⟩

/-- What a scan comes across: a file, or an entry with a path that is too long for the system. -/
inductive Finding where
  | file (file : SourceFile)
  | tooLong (directory entry : Path)

namespace Finding

def file? : Finding → Option SourceFile
  | file found => some found
  | tooLong _ _ => none

/-- The note of a directory that is given up. -/
def note? : Finding → Option Note
  | file _ => none
  | tooLong directory entry =>
    some (.error ("Error scanning directory " ++ String.ofList directory.text ++ ": " ++
      (Files.Error.refused .nameTooLong entry.text).message))

end Finding

/-- What a scan comes across at an entry and behind it. A hidden entry is passed over. Any other is asked
for by its whole path, and where the system refuses that the rest of the directory is given up. -/
def atEntry (base : Path) (above : List Name) (name : Name) (here behind : List Finding) :
    List Finding :=
  let entry := base.below (above ++ [name])
  if isHidden name then behind
  else if pathLimit ≤ Text.Utf8.byteLength entry.text then [.tooLong (base.below above) entry]
  else here ++ behind

/-- What a scan comes across in a listing, which stands below a base. -/
def findings (excluded : List Name) (base : Path) (above : List Name) : Listing → List Finding
  | .nil => []
  | .file name content rest =>
    atEntry base above name [.file ⟨above ++ [name], content⟩] (findings excluded base above rest)
  | .link name _ rest => atEntry base above name [] (findings excluded base above rest)
  | .directory name children rest =>
    atEntry base above name
      (if excluded.contains name then [] else findings excluded base (above ++ [name]) children)
      (findings excluded base above rest)

/-- The files of a listing that a scan visits. -/
def visited (excluded : List Name) (base : Path) (above : List Name) (listing : Listing) :
    List SourceFile :=
  (findings excluded base above listing).filterMap Finding.file?

/-- The order of lists: the first items that differ decide it, and a list stands in front of those that
it is the start of. -/
def orderOfLists (order : α → α → Ordering) : List α → List α → Ordering
  | [], [] => .eq
  | [], _ :: _ => .lt
  | _ :: _, [] => .gt
  | a :: as, b :: bs => (order a b).then (orderOfLists order as bs)

/-- The order of characters by their code points. -/
def orderOfChars (a b : Char) : Ordering :=
  if a.toNat < b.toNat then .lt else if b.toNat < a.toNat then .gt else .eq

/-- The order of paths by their names, which are compared by code points. -/
def orderOfNames : List Name → List Name → Ordering :=
  orderOfLists (orderOfLists orderOfChars)

/-- Files in the order of their names. -/
def sortFiles (files : List SourceFile) : List SourceFile :=
  files.mergeSort fun a b => (orderOfNames a.names b.names).isLE

/-- Why a project is not scanned. -/
inductive ScanError where
  | files (error : Files.Error)
  | missing (base : List Char)
  | notDirectory (base : List Char)
  deriving DecidableEq

def ScanError.message : ScanError → String
  | .files error => error.message
  | .missing base => "Base path does not exist: " ++ String.ofList base
  | .notDirectory base => "Base path is not a directory: " ++ String.ofList base

namespace Project

/-- The directory of a project, whose path is resolved first, with its listing. -/
def listing (system : System) (path : Path) : Except ScanError (Path × Listing) := do
  let base ← (system.resolve path).mapError .files
  if !(← (system.exists? base).mapError .files) then throw (.missing base.text)
  if !(← (system.isDirectory? base).mapError .files) then throw (.notDirectory base.text)
  return (base, ← (system.entriesAt base).mapError .files)

/-- The files of a project that a rule looks for, in order. -/
def scan (system : System) (rule : ScanRule) (path : Path) : Except ScanError (List SourceFile) := do
  let (base, entries) ← listing system path
  return sortFiles ((visited rule.excluded base [] entries).filter fun file =>
    rule.suffixes.contains file.suffix)

/-- The notes that a scan of a project takes on its way. -/
def scanNotes (system : System) (excluded : List Name) (path : Path) : List Note :=
  match listing system path with
  | .ok (base, entries) => (findings excluded base [] entries).filterMap Finding.note?
  | .error _ => []

/-- The source files of a project in order. -/
def sources (system : System) (path : Path) : Except ScanError (Noted (List SourceFile)) := do
  return ⟨← scan system .standard path, scanNotes system excludedDirectories path⟩

/-- The size of all files that a scan visits, in bytes. -/
def totalSize (system : System) (excluded : List Name) (path : Path) : Except ScanError Nat := do
  let (base, entries) ← listing system path
  return ((visited excluded base [] entries).map fun file => file.content.size).foldl (· + ·) 0

/-- The number of entries at the top of a project. -/
def entryCount (system : System) (path : Path) : Except Files.Error Nat := do
  return (← system.entriesAt path).count

end Project
end ProjectGauge
