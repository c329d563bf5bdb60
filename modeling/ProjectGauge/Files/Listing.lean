import ProjectGauge.Files.Path

/-!
# File trees

A listing holds the entries of a directory in some order: regular files, symbolic links, and further
directories. A file has a content, a link has the text of the path that it stands for.

* `Listing.find?` and `Listing.at?` look an entry up by its name or along names.
* `Listing.set` and `Listing.remove` change the entry at the end of names.
-/

namespace ProjectGauge.Files

/-- The content of a file: some bytes, and behind them a number of zero bytes. -/
structure Content where
  bytes : List UInt8
  zeros : Nat
  deriving DecidableEq

namespace Content

def ofBytes (bytes : List UInt8) : Content :=
  ⟨bytes, 0⟩

/-- The number of bytes. -/
def size (content : Content) : Nat :=
  content.bytes.length + content.zeros

def allBytes (content : Content) : List UInt8 :=
  content.bytes ++ List.replicate content.zeros 0

end Content

/-- The entries of a directory. -/
inductive Listing where
  | nil
  | file (name : Name) (content : Content) (rest : Listing)
  | link (name : Name) (target : List Char) (rest : Listing)
  | directory (name : Name) (children : Listing) (rest : Listing)
  deriving Inhabited

/-- An entry without its name. -/
inductive Node where
  | file (content : Content)
  | link (target : List Char)
  | directory (children : Listing)

namespace Node

/-- An entry is a directory. -/
def isDirectory : Node → Bool
  | directory _ => true
  | _ => false

/-- The target of an entry that is a link. -/
def target? : Node → Option (List Char)
  | link target => some target
  | _ => none

end Node

namespace Listing

/-- The entry of a name. -/
def find? (name : Name) : Listing → Option Node
  | nil => none
  | file other content rest => if other = name then some (.file content) else find? name rest
  | link other target rest => if other = name then some (.link target) else find? name rest
  | directory other children rest =>
    if other = name then some (.directory children) else find? name rest

/-- The number of entries. -/
def count : Listing → Nat
  | nil => 0
  | file _ _ rest => rest.count + 1
  | link _ _ rest => rest.count + 1
  | directory _ _ rest => rest.count + 1

def entryNames : Listing → List Name
  | nil => []
  | file name _ rest => name :: rest.entryNames
  | link name _ rest => name :: rest.entryNames
  | directory name _ rest => name :: rest.entryNames

/-- The number of links at any depth. -/
def linkCount : Listing → Nat
  | nil => 0
  | file _ _ rest => rest.linkCount
  | link _ _ rest => rest.linkCount + 1
  | directory _ children rest => children.linkCount + rest.linkCount

/-- The entry at the end of names; links on the way are not followed. -/
def at? (listing : Listing) : List Name → Option Node
  | [] => some (.directory listing)
  | name :: rest =>
    match listing.find? name with
    | some (.directory children) => children.at? rest
    | found => if rest.isEmpty then found else none

/-- An entry in front of others. -/
def cons (name : Name) : Node → Listing → Listing
  | .file content, rest => file name content rest
  | .link target, rest => link name target rest
  | .directory children, rest => directory name children rest

/-- The listing with the entry of a name changed. The entry keeps its place; a new one goes to the
end. -/
def modify (name : Name) (change : Option Node → Option Node) : Listing → Listing
  | nil =>
    match change none with
    | some node => cons name node nil
    | none => nil
  | file other content rest =>
    if other = name then
      match change (some (.file content)) with
      | some node => cons name node rest
      | none => rest
    else file other content (rest.modify name change)
  | link other target rest =>
    if other = name then
      match change (some (.link target)) with
      | some node => cons name node rest
      | none => rest
    else link other target (rest.modify name change)
  | directory other children rest =>
    if other = name then
      match change (some (.directory children)) with
      | some node => cons name node rest
      | none => rest
    else directory other children (rest.modify name change)

/-- The children of an entry that is a directory; any other has none. -/
def childrenOf : Option Node → Listing
  | some (.directory children) => children
  | _ => nil

/-- The listing with an entry at the end of names. Directories that are missing on the way are made. -/
def set (listing : Listing) (node : Node) : List Name → Listing
  | [] => listing
  | [name] => listing.modify name fun _ => some node
  | name :: rest =>
    listing.modify name fun old => some (.directory ((childrenOf old).set node rest))

/-- The listing without the entry at the end of names. -/
def remove (listing : Listing) : List Name → Listing
  | [] => listing
  | [name] => listing.modify name fun _ => none
  | name :: rest =>
    match listing.find? name with
    | some (.directory children) =>
      listing.modify name fun _ => some (.directory (children.remove rest))
    | _ => listing

end Listing
end ProjectGauge.Files
