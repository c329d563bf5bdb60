import ProjectGauge.Store.Record
import ProjectGauge.Files.System
import ProjectGauge.Note

/-!
# The store

The store is the file of a record. It is made when it is first used. A file that is no record, or that
has gone away, is an empty record, which is noted; it is left as it is until something changes. Only a
file with so many open brackets that there is no room for them stops whatever is done with the store.

* `Store.prepare` makes the file where there is none.
* `Store.read` gives the directories of a store.
* `Store.add` and `Store.remove` change them.
-/

namespace ProjectGauge.Store

open Files

/-- Why a store cannot be used. -/
inductive StoreError where
  | files (error : Files.Error)
  | tooDeep (container : Json.Container)

def StoreError.message : StoreError → String
  | .files error => error.message
  | .tooDeep container => container.tooDeep

/-- The note of a file that is read as an empty record. -/
def unreadable (file : Path) (reason : String) : Note :=
  .warning ("Could not read " ++ String.ofList file.text ++ ", treating as empty: " ++ reason)

def write (system : System) (file : Path) (record : Record) : Except Files.Error System :=
  system.write file (.ofBytes record.bytes)

/-- The file system with a store in a file, whose directory is made as well. -/
def prepare (system : System) (file : Path) : Except Files.Error System := do
  let system ← system.makeDirectories file.parentPath
  if ← system.exists? file then return system
  write system file []

def recordOf (room : Nat) (file : Path) (bytes : List UInt8) : Except StoreError (Noted Record) :=
  match Record.ofBytes room bytes with
  | .ok record => .ok (.plain record)
  | .error (.malformed (.tooDeep container)) => .error (.tooDeep container)
  | .error e => .ok (.withNote [] (unreadable file e.message))

/-- The directories of a store. -/
def read (room : Nat) (system : System) (file : Path) : Except StoreError (Noted Record) :=
  match system.bytesAt file with
  | .ok bytes => recordOf room file bytes
  | .error e =>
    match e with
    | .refused .notFound _ => .ok (.withNote [] (unreadable file e.message))
    | .nullCharacter => .ok (.withNote [] (unreadable file e.message))
    | e => .error (.files e)

/-- The file system with the record of a store changed, or nothing if there is nothing to change. -/
def update (room : Nat) (system : System) (file : Path) (change : Record → Option Record) :
    Noted (Except StoreError (Option System)) :=
  match read room system file with
  | .error e => .plain (.error e)
  | .ok known =>
    match change known.value with
    | none => ⟨.ok none, known.notes⟩
    | some record => ⟨((write system file record).map some).mapError .files, known.notes⟩

/-- The file system with a directory added to a store, or nothing if it is there already. -/
def add (room : Nat) (system : System) (file : Path) (directory : String) :
    Noted (Except StoreError (Option System)) :=
  update room system file (Record.add? directory)

/-- The file system with a directory removed from a store, or nothing if it is not there. -/
def remove (room : Nat) (system : System) (file : Path) (directory : String) :
    Noted (Except StoreError (Option System)) :=
  update room system file (Record.remove? directory)

end ProjectGauge.Store
