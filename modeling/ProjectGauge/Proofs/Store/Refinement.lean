import ProjectGauge.Proofs.Files.Write
import ProjectGauge.Proofs.Store.Record

/-!
# A store is a list

Whatever is done with a store, and in whatever order, it answers as a list of directories in memory would.
A file that is no record counts as an empty one, and so does no file at all.  But a file with more open
brackets than there is room for counts as nothing: whatever is to be done with it fails.

* `IsShallow` says that there is room for the brackets of a file.
* `Start` says from what files a store may start, and with which list.
* `serve` carries an operation out on the file, `Operation.apply` on the list.
* `serve_refines` is one operation and `serveAll_of_holds` any number of them, `serveAll_deep` is about a file
  that is too deep, and `serveAll_refines` about all files.
-/

namespace ProjectGauge.Store

open Files

/-! ## The list of a file -/

/-- The text of a value that is one. -/
def text? : Json.Value → Option String
  | .text text => some text
  | _ => none

/-- The directories in the bytes of a file.  There are none unless the bytes are UTF-8 and JSON, an object,
and its list, if there is one, has texts only. -/
def directoriesIn (bytes : List UInt8) : Record :=
  match Text.Utf8.decode bytes with
  | .error _ => []
  | .ok text =>
    match Json.read (Text.unifyNewlines text) with
    | .ok (.object members) =>
      match Json.lookup "directories" members with
      | some (.array items) => (items.mapM text?).getD []
      | _ => []
    | _ => []

theorem checkItems_eq (position : Nat) (items : List Json.Value) :
    (Json.checkItems (Json.scalar Json.Value.toText) position items).toOption = items.mapM text? := by
  induction items generalizing position with
  | nil => rfl
  | cons item rest inductionHypothesis =>
    have others := inductionHypothesis (position + 1)
    rw [List.mapM_cons, ← others, Json.checkItems]
    cases Json.checkItems (Json.scalar Json.Value.toText) (position + 1) rest with
    | error issues => cases item <;> rfl
    | ok texts => cases item <;> rfl

/-- There is room for the open brackets in the bytes of a file, as far as they are read. -/
def IsShallow (room : Nat) (bytes : List UInt8) : Prop :=
  ∀ text, Text.Utf8.decode bytes = .ok text → Json.tooDeep? room (Text.unifyNewlines text) = none

variable {room : Nat}

/-- Reading a file gives the directories in its bytes, if there is room for its brackets. -/
theorem recordOf_shallow {bytes : List UInt8} (shallow : IsShallow room bytes) (file : Path) :
    ∃ notes, recordOf room file bytes = .ok ⟨directoriesIn bytes, notes⟩ := by
  unfold recordOf Record.ofBytes directoriesIn
  -- The reader gives up at the same points, and then it has no directories.
  cases decoded : Text.Utf8.decode bytes with
  | error fault => exact ⟨_, rfl⟩
  | ok text =>
    rw [mapError_ok, ok_bind, Json.readWithin_eq (shallow text decoded)]
    dsimp only
    cases Json.read (Text.unifyNewlines text) with
    | error fault => exact ⟨_, rfl⟩
    | ok value =>
      rw [mapError_ok, mapError_ok, ok_bind]
      cases value with
      | object members =>
        unfold Record.ofValue Json.optionalField Record.field
        dsimp only
        cases Json.lookup "directories" members with
        | none => exact ⟨_, rfl⟩
        | some value =>
          cases value with
          | array items =>
            have same := checkItems_eq 0 items
            dsimp only [Json.listOf]
            rw [← same]
            cases Json.checkItems (Json.scalar Json.Value.toText) 0 items <;> exact ⟨_, rfl⟩
          | _ => exact ⟨_, rfl⟩
      | _ => exact ⟨_, rfl⟩

theorem recordOf_deep {bytes : List UInt8} (deep : ¬ IsShallow room bytes) (file : Path) :
    ∃ container, recordOf room file bytes = .error (.tooDeep container) := by
  unfold IsShallow at deep
  push Not at deep
  obtain ⟨text, decoded, isDeep⟩ := deep
  obtain ⟨container, isDeep⟩ := Option.ne_none_iff_exists'.mp isDeep
  refine ⟨container, ?_⟩
  unfold recordOf Record.ofBytes Json.readWithin
  rw [decoded, mapError_ok, ok_bind, isDeep]
  rfl

/-! ## Operations -/

/-- What is done with a store. -/
inductive Operation where
  | prepare
  | list
  | add (directory : String)
  | remove (directory : String)
  deriving DecidableEq

/-- What an operation gives back: nothing, the directories, or whether it has changed them. -/
inductive Reply where
  | done
  | listed (directories : Record)
  | changed (isChanged : Bool)
  deriving DecidableEq

/-- The operation on a list of directories. -/
def Operation.apply (directories : Record) : Operation → Reply × Record
  | .prepare => (.done, directories)
  | .list => (.listed directories, directories)
  | .add directory =>
    if directory ∈ directories then (.changed false, directories)
    else (.changed true, directories ++ [directory])
  | .remove directory =>
    if directory ∈ directories then (.changed true, directories.erase directory)
    else (.changed false, directories)

/-- Operations on a list of directories, one after the other. -/
def applyAll (directories : Record) : List Operation → List (Reply × Record)
  | [] => []
  | operation :: rest =>
    operation.apply directories :: applyAll (operation.apply directories).2 rest

/-- The reply to a change, with the file system behind it. -/
def changeReply (system : System) : Option System → Reply × System
  | none => (.changed false, system)
  | some after => (.changed true, after)

/-- The operation on the file of a store. -/
def serve (room : Nat) (file : Path) (system : System) : Operation → Except StoreError (Reply × System)
  | .prepare => return (.done, ← (prepare system file).mapError .files)
  | .list => return (.listed (← read room system file).value, system)
  | .add directory => return changeReply system (← (add room system file directory).value)
  | .remove directory => return changeReply system (← (remove room system file directory).value)

/-- Operations on the file of a store, one after the other. -/
def serveAll (room : Nat) (file : Path) (system : System) :
    List Operation → Except StoreError (List (Reply × System))
  | [] => return []
  | operation :: rest => do
    let served ← serve room file system operation
    return served :: (← serveAll room file served.2 rest)

/-! ## Files that hold a list -/

/-- A store with some directories: a file with its path, in whose bytes they are, with room for the brackets
of these. -/
structure Holds (room : Nat) (system : System) (file : Path) (directories : Record) : Prop where
  named : file.names ≠ []
  inFile : ∃ content, system.nodeAt file = .ok (.file content) ∧ IsShallow room content.allBytes ∧
    directoriesIn content.allBytes = directories

variable {system : System} {file : Path} {directories : Record}

theorem Holds.read (holds : Holds room system file directories) :
    ∃ notes, read room system file = .ok ⟨directories, notes⟩ := by
  obtain ⟨-, content, found, shallow, rfl⟩ := holds
  unfold Store.read
  rw [System.bytesAt_of_nodeAt found]
  exact recordOf_shallow shallow file

/-- The bytes of a file in which directories are written: an object with their list, line by line. -/
def writtenBytes (directories : Record) : List UInt8 :=
  Text.Utf8.encode ((Json.Value.object [("directories", .array (directories.map .text))]).indented 0)

theorem allBytes_ofBytes (bytes : List UInt8) : (Content.ofBytes bytes).allBytes = bytes := by
  simp [Content.ofBytes, Content.allBytes]

theorem recordOf_writtenBytes (enough : 2 ≤ room) (file : Path) (directories : Record) :
    recordOf room file (writtenBytes directories) = .ok (.plain directories) := by
  unfold recordOf
  rw [show writtenBytes directories = Record.bytes directories from rfl, Record.ofBytes_bytes enough]

theorem isShallow_writtenBytes (enough : 2 ≤ room) (directories : Record) :
    IsShallow room (writtenBytes directories) := by
  intro text decoded
  have plain : Text.IsPlain (Record.text directories) := Json.isPlain_object Record.field directories
  have written : Text.Utf8.decode (writtenBytes directories) = .ok (Record.text directories) :=
    Text.Utf8.decode_eq_ok_iff.mpr rfl
  cases written.symm.trans decoded
  rw [Text.unifyNewlines_plain plain]
  exact Json.tooDeep?_object enough Record.field directories

theorem directoriesIn_writtenBytes (directories : Record) :
    directoriesIn (writtenBytes directories) = directories := by
  obtain ⟨notes, read⟩ :=
    recordOf_shallow (isShallow_writtenBytes (Nat.le_refl 2) directories) ⟨.here, []⟩
  have same := read.symm.trans (recordOf_writtenBytes (Nat.le_refl 2) ⟨.here, []⟩ directories)
  exact congrArg Noted.value (Except.ok.inj same)

/-- The file of a store is as it has just been written. -/
def IsWritten (room : Nat) (system : System) (file : Path) (directories : Record) : Prop :=
  system.bytesAt file = .ok (writtenBytes directories) ∧
    read room system file = .ok (.plain directories)

theorem written_of_nodeAt (enough : 2 ≤ room) (named : file.names ≠ [])
    (found : system.nodeAt file = .ok (.file (.ofBytes (writtenBytes directories)))) :
    Holds room system file directories ∧ IsWritten room system file directories := by
  have bytes := System.bytesAt_of_nodeAt found
  rw [allBytes_ofBytes] at bytes
  refine ⟨⟨named, _, found, ?_, ?_⟩, bytes, ?_⟩
  · rw [allBytes_ofBytes]
    exact isShallow_writtenBytes enough directories
  · rw [allBytes_ofBytes, directoriesIn_writtenBytes]
  · unfold Store.read
    rw [bytes]
    exact recordOf_writtenBytes enough file directories

/-- Writing other directories to a store succeeds. -/
theorem Holds.write (enough : 2 ≤ room) (holds : Holds room system file directories) (others : Record) :
    ∃ after, write system file others = .ok after ∧ Holds room after file others ∧
      IsWritten room after file others := by
  obtain ⟨named, content, found, -⟩ := holds
  obtain ⟨after, written, -, inFile⟩ := System.write_known found (.ofBytes (writtenBytes others))
  exact ⟨after, written, written_of_nodeAt enough named inFile⟩

/-- A file that is there is left as it is. -/
theorem prepare_regular {content : Content} (named : file.names ≠ [])
    (found : system.nodeAt file = .ok (.file content)) : prepare system file = .ok system := by
  obtain ⟨place, leads, isThere⟩ := System.nodeAt_iff.mp found
  obtain ⟨directory, reached, isDirectory⟩ := leads.parentPath named
  have exists_ : system.exists? file = .ok true := by
    unfold System.exists?
    rw [found]
    rfl
  unfold prepare
  rw [System.makeDirectories_known reached isDirectory, ok_bind, exists_]
  rfl

theorem Holds.prepare (holds : Holds room system file directories) : prepare system file = .ok system := by
  obtain ⟨named, content, found, -⟩ := holds
  exact prepare_regular named found

/-! ## One operation -/

/-- What has been served is what the list gives: the reply, the directories behind it, and after a change
the file as it is written. -/
structure Agrees (room : Nat) (file : Path) (served : Reply × System) (expected : Reply × Record) : Prop where
  reply : served.1 = expected.1
  holds : Holds room served.2 file expected.2
  written : served.1 = .changed true → IsWritten room served.2 file expected.2

/-- A change of the list is a change of the store. -/
theorem update_refines (enough : 2 ≤ room) (holds : Holds room system file directories)
    (change : Record → Option Record) :
    ∃ after?, (update room system file change).value = .ok after? ∧
      Agrees room file (changeReply system after?)
        (match change directories with
          | none => (.changed false, directories)
          | some others => (.changed true, others)) := by
  obtain ⟨notes, known⟩ := holds.read
  unfold update
  rw [known]
  dsimp only
  cases changed : change directories with
  | none => exact ⟨none, rfl, rfl, holds, fun isChanged => by cases isChanged⟩
  | some others =>
    obtain ⟨after, written, holdsAfter, isWritten⟩ := holds.write enough others
    refine ⟨some after, ?_, rfl, holdsAfter, fun _ => isWritten⟩
    dsimp only
    rw [written]
    rfl

/-- A store answers an operation as its list does. -/
theorem serve_refines (enough : 2 ≤ room) (holds : Holds room system file directories)
    (operation : Operation) :
    ∃ served, serve room file system operation = .ok served ∧
      Agrees room file served (operation.apply directories) := by
  cases operation with
  | prepare =>
    refine ⟨(.done, system), ?_, rfl, holds, fun isChanged => by cases isChanged⟩
    unfold serve
    rw [holds.prepare]
    rfl
  | list =>
    obtain ⟨notes, known⟩ := holds.read
    refine ⟨(.listed directories, system), ?_, rfl, holds, fun isChanged => by cases isChanged⟩
    unfold serve
    rw [known]
    rfl
  | add directory =>
    obtain ⟨after?, updated, agrees⟩ := update_refines enough holds (Record.add? directory)
    refine ⟨changeReply system after?, ?_, ?_⟩
    · rw [serve, add, updated]
      rfl
    · unfold Record.add? at agrees
      unfold Operation.apply
      by_cases inside : directory ∈ directories
      · simpa only [if_pos inside] using agrees
      · simpa only [if_neg inside] using agrees
  | remove directory =>
    obtain ⟨after?, updated, agrees⟩ := update_refines enough holds (Record.remove? directory)
    refine ⟨changeReply system after?, ?_, ?_⟩
    · rw [serve, remove, updated]
      rfl
    · unfold Record.remove? at agrees
      unfold Operation.apply
      by_cases inside : directory ∈ directories
      · simpa only [if_pos inside] using agrees
      · simpa only [if_neg inside] using agrees

/-! ## Any number of operations -/

/-- A store that holds a list answers as the list does from then on. -/
theorem serveAll_of_holds (enough : 2 ≤ room) (holds : Holds room system file directories)
    (operations : List Operation) :
    ∃ served, serveAll room file system operations = .ok served ∧
      List.Forall₂ (Agrees room file) served (applyAll directories operations) := by
  -- `Holds` is what every operation leaves behind, whatever it has answered.
  induction operations generalizing system directories with
  | nil => exact ⟨[], rfl, .nil⟩
  | cons operation rest inductionHypothesis =>
    obtain ⟨first, served, agrees⟩ := serve_refines enough holds operation
    obtain ⟨others, servedAll, agree⟩ := inductionHypothesis agrees.holds
    refine ⟨first :: others, ?_, .cons agrees agree⟩
    rw [serveAll, served, ok_bind, servedAll]
    rfl

/-- What a store may start from, and the directories that it then has: no file, where one can be made, or
any file whose brackets there is room for. -/
inductive Start (room : Nat) (system : System) (file : Path) : Record → Prop where
  | absent {base : Path} {place fresh : List Name} (isFile : file = base.below fresh)
    (named : fresh ≠ []) (fits : file.Fits) (vacant : system.IsVacant base place fresh) :
    Start room system file []
  | regular {content : Content} (named : file.names ≠ [])
    (found : system.nodeAt file = .ok (.file content)) (shallow : IsShallow room content.allBytes) :
    Start room system file (directoriesIn content.allBytes)

/-- Where there is no file yet, one without directories is made, with the directory that it stands in. -/
theorem prepare_absent {base : Path} {place fresh : List Name} (enough : 2 ≤ room) (named : fresh ≠ [])
    (fits : (base.below fresh).Fits) (vacant : system.IsVacant base place fresh) :
    ∃ after, prepare system (base.below fresh) = .ok after ∧
      Holds room after (base.below fresh) [] := by
  obtain ⟨directories, last, rfl⟩ : ∃ front last, fresh = front ++ [last] :=
    ⟨fresh.dropLast, fresh.getLast named, (List.dropLast_concat_getLast named).symm⟩
  obtain ⟨leads, isDirectory, missing, proper⟩ := vacant
  have lastProper : IsProper last := proper last (by simp)
  have parentFits : (base.below directories).Fits :=
    base.parentPath_below directories last ▸ fits.parentPath
  have vacantParent : system.IsVacant base place directories := by
    refine ⟨leads, isDirectory, fun name isHead => missing name ?_,
      fun name inside => proper name (List.mem_append_left _ inside)⟩
    cases directories with
    | nil => cases isHead
    | cons first others => exact isHead
  -- The directory of the file is made first, and is empty unless it was there.
  obtain ⟨made, madeDirectories, -, reached, isSame, isEmpty⟩ :=
    System.makeDirectoryBelow_new vacantParent parentFits (base.below directories).names.length
      (by simp [Path.below])
  have inDirectory : made.HasDirectory (place ++ directories) ∧
      made.at? (place ++ directories ++ [last]) = none := by
    by_cases none : directories = []
    · subst none
      rw [isSame rfl, List.append_nil]
      exact ⟨isDirectory, missing last rfl⟩
    · have found := isEmpty none
      exact ⟨⟨_, found⟩, Listing.at?_append [last] found⟩
  obtain ⟨isDirectory, missing⟩ := inDirectory
  -- So there is no file yet, and one without directories is written.
  have whole := base.below_below directories [last]
  have absent := System.exists?_missing reached isDirectory (whole ▸ fits) lastProper missing
  obtain ⟨after, written, -, found⟩ := System.write_new reached isDirectory (whole ▸ fits) lastProper
    missing (.ofBytes (writtenBytes []))
  rw [whole] at absent written found
  refine ⟨after, ?_, (written_of_nodeAt enough (by simp [Path.below]) found).1⟩
  unfold Store.prepare System.makeDirectories
  rw [Path.parentPath_below, madeDirectories, ok_bind, absent]
  exact written

/-- Prepared, a store holds the directories that it starts with. -/
theorem Start.prepare (enough : 2 ≤ room) (start : Start room system file directories) :
    ∃ after, prepare system file = .ok after ∧ Holds room after file directories := by
  cases start with
  | absent isFile named fits vacant =>
    subst isFile
    exact prepare_absent enough named fits vacant
  | regular named found shallow =>
    have holds : Holds room system file _ := ⟨named, _, found, shallow, rfl⟩
    exact ⟨system, holds.prepare, holds⟩

/-- From any start, a store that is prepared first answers any operations as a list of directories does. -/
theorem Start.serveAll (enough : 2 ≤ room) (start : Start room system file directories)
    (operations : List Operation) :
    ∃ served, serveAll room file system (.prepare :: operations) = .ok served ∧
      List.Forall₂ (Agrees room file) served (applyAll directories (.prepare :: operations)) := by
  obtain ⟨after, prepared, holds⟩ := start.prepare enough
  obtain ⟨others, servedAll, agree⟩ := serveAll_of_holds enough holds operations
  refine ⟨(.done, after) :: others, ?_, .cons ⟨rfl, holds, fun isChanged => by cases isChanged⟩ agree⟩
  rw [Store.serveAll, serve, prepared]
  change (Store.serveAll room file after operations >>= _) = _
  rw [servedAll]
  rfl

/-! ## Files that are too deep -/

section Deep

variable {content : Content} {container : Json.Container}

/-- A store that is too deep cannot be used for anything but being there. -/
theorem serve_deep (named : file.names ≠ []) (found : system.nodeAt file = .ok (.file content))
    (deep : recordOf room file content.allBytes = .error (.tooDeep container)) (operation : Operation) :
    serve room file system operation =
      if operation = .prepare then .ok (.done, system) else .error (.tooDeep container) := by
  have failed : read room system file = .error (.tooDeep container) := by
    unfold Store.read
    rw [System.bytesAt_of_nodeAt found]
    exact deep
  have changes (change : Record → Option Record) :
      (update room system file change).value = .error (.tooDeep container) := by
    unfold update
    rw [failed]
    rfl
  cases operation with
  | prepare =>
    rw [serve, prepare_regular named found]
    rfl
  | list =>
    rw [serve, failed]
    rfl
  | add directory =>
    rw [serve, add, changes]
    rfl
  | remove directory =>
    rw [serve, remove, changes]
    rfl

/-- Operations on such a store fail as soon as one of them needs what is in the file. -/
theorem serveAll_deep (named : file.names ≠ []) (found : system.nodeAt file = .ok (.file content))
    (deep : recordOf room file content.allBytes = .error (.tooDeep container))
    {operations : List Operation} (used : ∃ operation ∈ operations, operation ≠ .prepare) :
    serveAll room file system operations = .error (.tooDeep container) := by
  induction operations with
  | nil =>
    obtain ⟨operation, inside, -⟩ := used
    cases inside
  | cons operation rest inductionHypothesis =>
    rw [serveAll, serve_deep named found deep]
    by_cases isPrepare : operation = .prepare
    · -- Nothing has happened to the file, so it is too deep for the others.
      have later : ∃ other ∈ rest, other ≠ .prepare := by
        obtain ⟨other, inside, isUsed⟩ := used
        rcases List.mem_cons.mp inside with rfl | inside
        · exact absurd isPrepare isUsed
        · exact ⟨other, inside, isUsed⟩
      rw [if_pos isPrepare, ok_bind, inductionHypothesis later]
      rfl
    · rw [if_neg isPrepare]
      rfl

end Deep

/-! ## All files -/

/-- From any start, a store that is prepared first answers any operations as a list of directories does.  The
only other file is one whose brackets there is no room for: it is left alone, and operations fail as soon as
one of them needs what is in it. -/
theorem serveAll_refines (enough : 2 ≤ room) (system : System) (file : Path) (operations : List Operation) :
    (∀ directories, Start room system file directories →
      ∃ served, serveAll room file system (.prepare :: operations) = .ok served ∧
        List.Forall₂ (Agrees room file) served (applyAll directories (.prepare :: operations))) ∧
    ∀ content, file.names ≠ [] → system.nodeAt file = .ok (.file content) →
      ¬ IsShallow room content.allBytes →
        prepare system file = .ok system ∧
          ((∃ operation ∈ operations, operation ≠ .prepare) →
            ∃ container,
              serveAll room file system (.prepare :: operations) = .error (.tooDeep container)) := by
  refine ⟨fun directories start => start.serveAll enough operations, ?_⟩
  intro content named found isDeep
  obtain ⟨container, deep⟩ := recordOf_deep isDeep file
  refine ⟨prepare_regular named found, fun ⟨operation, inside, isUsed⟩ => ⟨container, ?_⟩⟩
  exact serveAll_deep named found deep ⟨operation, List.mem_cons_of_mem _ inside, isUsed⟩

/-- A file in a directory, neither of which is there in an empty tree. -/
def sampleFile : Path :=
  ⟨.here, ["cfg".toList, "list.json".toList]⟩

theorem sampleFile_vacant : Start 2 ⟨.nil, []⟩ sampleFile [] := by
  have vacant : System.IsVacant ⟨.nil, []⟩ ⟨.here, []⟩ [] ["cfg".toList, "list.json".toList] := by
    refine ⟨⟨⟨by decide, by decide⟩, .arrived⟩, ⟨.nil, rfl⟩, ?_, ?_⟩
    · intro name isHead
      cases isHead
      rfl
    · intro name inside
      simp only [List.mem_cons, List.not_mem_nil, or_false] at inside
      rcases inside with rfl | rfl <;> exact ⟨by decide, by decide, by decide⟩
  exact .absent rfl (by decide) ⟨by decide, by decide⟩ vacant

/-- A file with so many open brackets, and nothing else in the tree. -/
def openLists (count : Nat) : System :=
  ⟨.file "list.json".toList (.ofBytes (Text.Utf8.encode (Json.openLists count))) .nil, []⟩

def openListsFile : Path :=
  ⟨.here, ["list.json".toList]⟩

theorem nodeAt_openLists (count : Nat) :
    (openLists count).nodeAt openListsFile =
      .ok (.file (.ofBytes (Text.Utf8.encode (Json.openLists count)))) := by
  rfl

theorem isPlain_openLists (count : Nat) : Text.IsPlain (Json.openLists count) := by
  intro c inside
  rw [List.eq_of_mem_replicate inside]
  decide

theorem recordOf_openLists {count : Nat} (few : room < count) (file : Path) :
    recordOf room file (Content.ofBytes (Text.Utf8.encode (Json.openLists count))).allBytes =
      .error (.tooDeep .list) := by
  unfold recordOf Record.ofBytes Json.readWithin
  rw [allBytes_ofBytes, Text.Utf8.decode_eq_ok_iff.mpr rfl, mapError_ok, ok_bind,
    Text.unifyNewlines_plain (isPlain_openLists count), Json.tooDeep?_openLists few]
  rfl

theorem not_isShallow_openLists {count : Nat} (few : room < count) :
    ¬ IsShallow room (Content.ofBytes (Text.Utf8.encode (Json.openLists count))).allBytes := by
  intro shallow
  obtain ⟨notes, read⟩ := recordOf_shallow shallow openListsFile
  cases read.symm.trans (recordOf_openLists few openListsFile)

/-- A store that is not there yet answers as an empty list does, and one with three open brackets stops where
there is room for two. -/
theorem serveAll_refines_sample :
    (Start 2 ⟨.nil, []⟩ sampleFile [] ∧
      ∃ served, serveAll 2 sampleFile ⟨.nil, []⟩
          [.prepare, .add "\x22\\", .add "\x22\\", .add "😀", .remove "\x22\\", .list] = .ok served ∧
        List.Forall₂ (Agrees 2 sampleFile) served
          [(.done, []), (.changed true, ["\x22\\"]), (.changed false, ["\x22\\"]),
            (.changed true, ["\x22\\", "😀"]), (.changed true, ["😀"]),
            (.listed ["😀"], ["😀"])]) ∧
    ∃ container,
      serveAll 2 openListsFile (openLists 3) [.prepare, .add "a"] = .error (.tooDeep container) := by
  have refined := (serveAll_refines (Nat.le_refl 2) ⟨.nil, []⟩ sampleFile
    [.add "\x22\\", .add "\x22\\", .add "😀", .remove "\x22\\", .list]).1 [] sampleFile_vacant
  have stopped := (serveAll_refines (Nat.le_refl 2) (openLists 3) openListsFile [.add "a"]).2 _ (by decide)
    (nodeAt_openLists 3) (not_isShallow_openLists (by decide))
  refine ⟨⟨sampleFile_vacant, ?_⟩, stopped.2 ⟨.add "a", List.mem_singleton_self _, nofun⟩⟩
  simpa [applyAll, Operation.apply] using refined

theorem read_openLists (count : Nat) : ∃ fault, Json.read (Json.openLists count) = .error fault := by
  unfold Json.read
  rw [Json.readAll_openLists]
  exact ⟨_, rfl⟩

theorem directoriesIn_openLists (count : Nat) :
    directoriesIn (Text.Utf8.encode (Json.openLists count)) = [] := by
  obtain ⟨fault, malformed⟩ := read_openLists count
  unfold directoriesIn
  rw [Text.Utf8.decode_eq_ok_iff.mpr rfl]
  dsimp only
  rw [Text.unifyNewlines_plain (isPlain_openLists count), malformed]

/-- A file that is no JSON, and so without directories, but that cannot be read as such: it has more open
brackets than there is room for. -/
theorem list_fails_at_brackets :
    (∃ fault, Json.read (Json.openLists 20000) = .error fault) ∧
      directoriesIn (Text.Utf8.encode (Json.openLists 20000)) = [] ∧
      serve Json.usualRoom openListsFile (openLists 20000) .list = .error (.tooDeep .list) := by
  have deep := recordOf_openLists (show Json.usualRoom < 20000 by decide) openListsFile
  have failed := serve_deep (by decide) (nodeAt_openLists 20000) deep .list
  exact ⟨read_openLists 20000, directoriesIn_openLists 20000, failed.trans (if_neg nofun)⟩

end ProjectGauge.Store
