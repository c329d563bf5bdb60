import ProjectGauge.Files.Listing
import ProjectGauge.Text.Newline

/-!
# File systems

A file system is a tree with a working directory in it. An operation on a path walks along its names
from the root or from the working directory, follows the links that it meets, and is refused with a
cause where it cannot go on.

* `System.walk` finds the entry that a path leads to.
* `System.bytesAt`, `System.entriesAt`, `System.write` and `System.makeDirectories` read and change the
  tree.
-/

namespace ProjectGauge.Files

/-! ## Causes -/

/-- Why an operation on a path is refused. -/
inductive Cause where
  | notFound
  | exists
  | notDirectory
  | isDirectory
  | nameTooLong
  | tooManyLinks
  deriving DecidableEq

def Cause.number : Cause → Nat
  | .notFound => 2
  | .exists => 17
  | .notDirectory => 20
  | .isDirectory => 21
  | .nameTooLong => 36
  | .tooManyLinks => 40

/-- The wording of a cause. -/
def Cause.message : Cause → String
  | .notFound => "No such file or directory"
  | .exists => "File exists"
  | .notDirectory => "Not a directory"
  | .isDirectory => "Is a directory"
  | .nameTooLong => "File name too long"
  | .tooManyLinks => "Too many levels of symbolic links"

/-- An operation on a path has failed. -/
inductive Error where
  /-- The system has refused the path. -/
  | refused (cause : Cause) (path : List Char)
  /-- The path holds a null character. -/
  | nullCharacter
  /-- The links on the way lead back to themselves. -/
  | linkLoop (path : List Char)
  deriving DecidableEq

/-- The wording of an error. -/
def Error.message : Error → String
  | .refused cause path =>
    "[Errno " ++ Text.intString cause.number ++ "] " ++ cause.message ++ ": " ++
      String.ofList (Text.quoted path)
  | .nullCharacter => "embedded null byte"
  | .linkLoop path => "Symlink loop from " ++ String.ofList (Text.quoted path)

/-! ## Walking -/

/-- The most bytes that a name may have. -/
def nameLimit : Nat := 255

/-- A path has fewer bytes than this. -/
def pathLimit : Nat := 4096

/-- The most links that are followed on one way. -/
def linkLimit : Nat := 40

/-- What may stand at the end of a way: whether a link there is followed, and whether the last name may
be missing. -/
structure Ending where
  followsLink : Bool
  mayBeNew : Bool

/-- An entry that is there, behind all links. -/
def Ending.existing : Ending := ⟨true, false⟩

/-- An entry that is there, which may be a link. -/
def Ending.itself : Ending := ⟨false, false⟩

/-- An entry behind all links, which may be a new one. -/
def Ending.writable : Ending := ⟨true, true⟩

/-- A name that may be a new one. -/
def Ending.creatable : Ending := ⟨false, true⟩

/-- A tree with a working directory, which is given by its names from the root. -/
structure System where
  root : Listing
  here : List Name

/-- The names that the target of a link adds to a way. A slash at its end demands a directory. -/
def targetNames (target : List Char) : List Name :=
  namesIn target ++ if target.getLast? == some '/' then [self] else []

/-- The directory at which a way along a text starts, given the one at which the text stands. -/
def startOf (directory : List Name) (text : List Char) : List Name :=
  if text.head? == some '/' then [] else directory

namespace System

/-- The entry at canonical names. -/
def at? (system : System) (place : List Name) : Option Node :=
  system.root.at? place

/-- The place at the end of names, from a directory on; `follow` goes on behind a link. -/
def step (system : System) (ending : Ending)
    (follow : List Name → List Name → Except Cause (List Name)) :
    List Name → List Name → Except Cause (List Name)
  | place, [] => .ok place
  | place, name :: rest =>
    if !(system.at? place).any Node.isDirectory then .error .notDirectory
    else if name = self then system.step ending follow place rest
    else if name = parent then system.step ending follow place.dropLast rest
    else if nameLimit < Text.Utf8.byteLength name then .error .nameTooLong
    else
      match system.at? (place ++ [name]) with
      | none =>
        if rest.isEmpty && ending.mayBeNew then .ok (place ++ [name]) else .error .notFound
      | some (.link target) =>
        if rest.isEmpty && !ending.followsLink then .ok (place ++ [name])
        else follow (startOf place target) (targetNames target ++ rest)
      | some _ => system.step ending follow (place ++ [name]) rest

/-- The place at the end of names when a number of links may be followed. -/
def walkFrom (system : System) (ending : Ending) :
    Nat → List Name → List Name → Except Cause (List Name)
  | 0 => system.step ending fun _ _ => .error .tooManyLinks
  | links + 1 => system.step ending (system.walkFrom ending links)

def startOf (system : System) (path : Path) : List Name :=
  match path.anchor with
  | .here => system.here
  | _ => []

/-- The place that a path leads to. -/
def walk (system : System) (ending : Ending) (path : Path) : Except Error (List Name) :=
  let text := path.text
  if text.contains '\x00' then .error .nullCharacter
  else if pathLimit ≤ Text.Utf8.byteLength text then .error (.refused .nameTooLong text)
  else
    (system.walkFrom ending linkLimit (system.startOf path) path.names).mapError
      fun cause => .refused cause text

/-- The entry that a path leads to. -/
def nodeAt (system : System) (path : Path) : Except Error Node := do
  match system.at? (← system.walk .existing path) with
  | some node => return node
  | none => throw (.refused .notFound path.text)

/-! ## Reading -/

/-- What a question about an entry gives for an error: nothing is there, or the error is passed on. -/
def absence (default : α) : Except Error α → Except Error α
  | .error (.refused .nameTooLong path) => .error (.refused .nameTooLong path)
  | .error _ => .ok default
  | result => result

/-- A path leads to an entry. -/
def exists? (system : System) (path : Path) : Except Error Bool :=
  absence false ((system.nodeAt path).map fun _ => true)

def isDirectory? (system : System) (path : Path) : Except Error Bool :=
  absence false ((system.nodeAt path).map Node.isDirectory)

/-- The bytes of the file that a path leads to. -/
def bytesAt (system : System) (path : Path) : Except Error (List UInt8) := do
  match ← system.nodeAt path with
  | .file content => return content.allBytes
  | _ => throw (.refused .isDirectory path.text)

/-- The entries of the directory that a path leads to. -/
def entriesAt (system : System) (path : Path) : Except Error Listing := do
  match ← system.nodeAt path with
  | .directory children => return children
  | _ => throw (.refused .notDirectory path.text)

/-! ## Writing -/

/-- The file system with an entry at a place. -/
def set (system : System) (place : List Name) (node : Node) : System :=
  { system with root := system.root.set node place }

/-- The file system with a file written at the end of a path. -/
def write (system : System) (path : Path) (content : Content) : Except Error System := do
  let place ← system.walk .writable path
  if (system.at? place).any Node.isDirectory then throw (.refused .isDirectory path.text)
  return system.set place (.file content)

/-- The file system with a new entry at the end of a path. -/
def create (system : System) (path : Path) (node : Node) : Except Error System := do
  let place ← system.walk .creatable path
  if (system.at? place).isSome then throw (.refused .exists path.text)
  return system.set place node

/-- The file system with a directory at the end of a path, given what making a new one there has come
to. One that is there already will do. -/
def settleDirectory (system : System) (path : Path) : Except Error System → Except Error System
  | .ok made => .ok made
  | .error e => do if ← system.isDirectory? path then return system else throw e

/-- The file system with a directory at the end of a path. A number of missing directories above it
are made as well. -/
def makeDirectoryBelow (system : System) : Nat → Path → Except Error System
  | 0, path => system.settleDirectory path (system.create path (.directory .nil))
  | above + 1, path =>
    match system.create path (.directory .nil) with
    | .error (.refused .notFound _) => do
      let made ← system.makeDirectoryBelow above path.parentPath
      made.settleDirectory path (made.create path (.directory .nil))
    | result => system.settleDirectory path result

/-- The file system with a directory at the end of a path, and with all directories above it. -/
def makeDirectories (system : System) (path : Path) : Except Error System :=
  system.makeDirectoryBelow path.names.length path

/-- The file system without the entry at the end of a path. -/
def remove (system : System) (path : Path) : Except Error System := do
  let place ← system.walk .itself path
  return { system with root := system.root.remove place }

end System
end ProjectGauge.Files
