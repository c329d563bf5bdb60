import ProjectGauge.Proofs.Files.Tree
import ProjectGauge.Proofs.Project.Order

/-!
# What a scan returns

A scan shows the files of a directory that are reached without a hidden name, without a link and
through no excluded directory.  It returns each of them once, and in an order that depends on their names
alone, so it does not matter in which order the system lists a directory.  The one thing that can go
wrong on the way is a path that is too long for the system: then the rest of a directory is given up.
That there is room for the calls of the walk, one for each directory that it is in, is assumed as it is
where the walk is defined.

* `Shows` says what a scan is to find, without a look at how it goes about.
* `Finds` is what every part of a scan keeps, `finds_visited` that a whole scan does.
* `Project.scan_exact` puts it together for the path of a project.
-/

namespace ProjectGauge

open Files

/-! ## What a scan is to find -/

/-- A way below a project on which nothing is hidden, through no excluded directory. -/
structure Visible (excluded : List Name) (names : List Name) : Prop where
  shown : ∀ name ∈ names, isHidden name = false
  entered : ∀ name ∈ names.dropLast, name ∉ excluded

/-- A file that stands below a directory on a visible way, which leads through directories only. -/
structure Shows (excluded : List Name) (entries : Listing) (names : List Name) (content : Content) :
    Prop where
  found : entries.at? names = some (.file content)
  visible : Visible excluded names

/-- All entries on visible ways have paths that are short enough for the system. -/
def Short (excluded : List Name) (base : Path) (above : List Name) (entries : Listing) : Prop :=
  ∀ names node, entries.at? names = some node → Visible excluded names →
    Text.Utf8.byteLength (base.below (above ++ names)).text < pathLimit

/-- What holds of the files that some part of a scan has found below a place. -/
structure Finds (excluded : List Name) (base : Path) (above : List Name) (entries : Listing)
    (files : List SourceFile) : Prop where
  sound : ∀ file ∈ files, ∃ names, file.names = above ++ names ∧ Shows excluded entries names file.content
  distinct : (files.map SourceFile.names).Nodup
  complete : Short excluded base above entries → ∀ names content,
    Shows excluded entries names content → ⟨above ++ names, content⟩ ∈ files

/-! ## Steps of a scan -/

section Steps

variable {excluded : List Name} {base : Path} {above : List Name} {name : Name}

theorem Visible.head {first : Name} {more : List Name} (visible : Visible excluded (first :: more)) :
    isHidden first = false :=
  visible.shown first List.mem_cons_self

theorem visible_single (shown : isHidden name = false) : Visible excluded [name] :=
  ⟨by simpa using shown, by simp⟩

theorem visible_cons {names : List Name} (shown : isHidden name = false) (entered : name ∉ excluded)
    (visible : Visible excluded names) : Visible excluded (name :: names) := by
  refine ⟨?_, ?_⟩
  · intro other member
    rcases List.mem_cons.mp member with rfl | member
    · exact shown
    · exact visible.shown other member
  · cases names with
    | nil => simp
    | cons first more =>
      intro other member
      rw [List.dropLast_cons_cons] at member
      rcases List.mem_cons.mp member with rfl | member
      · exact entered
      · exact visible.entered other member

theorem Visible.tail {first second : Name} {more : List Name}
    (visible : Visible excluded (first :: second :: more)) :
    first ∉ excluded ∧ Visible excluded (second :: more) :=
  ⟨visible.entered first List.mem_cons_self,
    fun other member => visible.shown other (List.mem_cons_of_mem _ member),
    fun other member => visible.entered other (List.mem_cons_of_mem _ member)⟩

theorem Shows.named {entries : Listing} {names : List Name} {content : Content}
    (shows : Shows excluded entries names content) : names ≠ [] := by
  rintro rfl
  cases shows.found

theorem finds_nil : Finds excluded base above .nil [] where
  sound := by simp
  distinct := List.nodup_nil
  complete := by
    intro _ names content shows
    obtain ⟨first, more, rfl⟩ := List.exists_cons_of_ne_nil shows.named
    cases Listing.mem_entryNames_of_at? shows.found

theorem finds_file (content : Content) (shown : isHidden name = false) :
    Finds excluded base above (.file name content .nil) [⟨above ++ [name], content⟩] where
  sound := by
    intro file member
    rw [List.mem_singleton] at member
    subst member
    exact ⟨[name], rfl, by simp [Listing.at?, Listing.find?], visible_single shown⟩
  distinct := by simp
  complete := by
    intro _ names other shows
    obtain ⟨first, more, rfl⟩ := List.exists_cons_of_ne_nil shows.named
    have found := shows.found
    obtain rfl : first = name := Listing.eq_of_at?_cons_nil (.file content) found
    cases more with
    | nil =>
      simp only [Listing.at?_singleton, Listing.find?, if_pos, Option.some.injEq, Node.file.injEq] at found
      simp [found]
    | cons next more => simp [Listing.at?, Listing.find?] at found

theorem finds_link (target : List Char) : Finds excluded base above (.link name target .nil) [] where
  sound := by simp
  distinct := List.nodup_nil
  complete := by
    intro _ names other shows
    obtain ⟨first, more, rfl⟩ := List.exists_cons_of_ne_nil shows.named
    have found := shows.found
    obtain rfl : first = name := Listing.eq_of_at?_cons_nil (.link target) found
    simp [Listing.at?, Listing.find?] at found

theorem Short.inside {children : Listing}
    (short : Short excluded base above (.directory name children .nil)) (shown : isHidden name = false)
    (entered : name ∉ excluded) : Short excluded base (above ++ [name]) children := by
  intro names node found visible
  have isDirectory : (Listing.directory name children .nil).find? name = some (.directory children) :=
    if_pos rfl
  have below : (Listing.directory name children .nil).at? (name :: names) = some node := by
    rw [Listing.at?_cons_directory names isDirectory, found]
  rw [List.append_assoc]
  exact short (name :: names) node below (visible_cons shown entered visible)

/-- What is found below a directory is found in the directory that holds it. -/
theorem finds_directory {children : Listing} {files : List SourceFile}
    (inside : Finds excluded base (above ++ [name]) children files) (shown : isHidden name = false) :
    Finds excluded base above (.directory name children .nil)
      (if excluded.contains name then [] else files) := by
  have below (names : List Name) :
      (Listing.directory name children .nil).at? (name :: names) = children.at? names :=
    Listing.at?_cons_directory names (by simp [Listing.find?])
  by_cases isExcluded : name ∈ excluded
  · rw [if_pos (by simpa using isExcluded)]
    refine ⟨by simp, List.nodup_nil, ?_⟩
    -- A file in here would have the excluded name among its directories.
    intro _ names content shows
    obtain ⟨first, more, rfl⟩ := List.exists_cons_of_ne_nil shows.named
    have found := shows.found
    obtain rfl : first = name := Listing.eq_of_at?_cons_nil (.directory children) found
    cases more with
    | nil =>
      rw [below] at found
      cases found
    | cons next more => exact absurd isExcluded shows.visible.tail.1
  · rw [if_neg (by simpa using isExcluded)]
    refine ⟨?_, inside.distinct, ?_⟩
    · intro file member
      obtain ⟨names, same, found, visible⟩ := inside.sound file member
      refine ⟨name :: names, by simp [same], ?_, visible_cons shown isExcluded visible⟩
      rw [below]
      exact found
    · intro short names content shows
      obtain ⟨first, more, rfl⟩ := List.exists_cons_of_ne_nil shows.named
      have found := shows.found
      obtain rfl : first = name := Listing.eq_of_at?_cons_nil (.directory children) found
      rw [below] at found
      have visible : Visible excluded more := by
        cases more with
        | nil => cases found
        | cons next more => exact shows.visible.tail.2
      simpa using inside.complete (short.inside shown isExcluded) more content ⟨found, visible⟩

theorem Short.of_part {entries part : Listing} (short : Short excluded base above entries)
    (isPart : ∀ names node, names ≠ [] → part.at? names = some node → entries.at? names = some node) :
    Short excluded base above part := by
  intro names node found visible
  cases names with
  | nil => exact short [] (.directory entries) rfl visible
  | cons first more => exact short _ node (isPart _ node (by simp) found) visible

section Entry

variable {node : Node} {rest : Listing} {files behindFiles : List SourceFile}

theorem shows_cons_iff (fresh : name ∉ rest.entryNames) {names : List Name} {content : Content} :
    Shows excluded (Listing.cons name node rest) names content ↔
      Shows excluded (Listing.cons name node .nil) names content ∨ Shows excluded rest names content := by
  constructor
  · intro shows
    exact ((Listing.at?_cons fresh node shows.named _).mp shows.found).imp
      (⟨·, shows.visible⟩) (⟨·, shows.visible⟩)
  · rintro (shows | shows)
    · exact ⟨(Listing.at?_cons fresh node shows.named _).mpr (.inl shows.found), shows.visible⟩
    · exact ⟨(Listing.at?_cons fresh node shows.named _).mpr (.inr shows.found), shows.visible⟩

theorem Short.behind (short : Short excluded base above (Listing.cons name node rest))
    (fresh : name ∉ rest.entryNames) : Short excluded base above rest :=
  short.of_part fun _ _ named found => (Listing.at?_cons fresh node named _).mpr (.inr found)

theorem Short.here (short : Short excluded base above (Listing.cons name node rest))
    (fresh : name ∉ rest.entryNames) : Short excluded base above (Listing.cons name node .nil) :=
  short.of_part fun _ _ named found => (Listing.at?_cons fresh node named _).mpr (.inl found)

/-- Nothing at or below a hidden entry is to be found. -/
theorem Finds.skip (behind : Finds excluded base above rest files) (fresh : name ∉ rest.entryNames)
    (hidden : isHidden name = true) : Finds excluded base above (Listing.cons name node rest) files where
  sound := by
    intro file member
    obtain ⟨names, same, shows⟩ := behind.sound file member
    exact ⟨names, same, (shows_cons_iff fresh).mpr (.inr shows)⟩
  distinct := behind.distinct
  complete := by
    intro short names content shows
    rcases (shows_cons_iff fresh).mp shows with here | later
    · obtain ⟨first, more, rfl⟩ := List.exists_cons_of_ne_nil here.named
      obtain rfl := Listing.eq_of_at?_cons_nil node here.found
      rw [here.visible.head] at hidden
      cases hidden
    · exact behind.complete (short.behind fresh) names content later

/-- Where a path is too long, nothing is found any more. -/
theorem finds_tooLong (shown : isHidden name = false)
    (long : pathLimit ≤ Text.Utf8.byteLength (base.below (above ++ [name])).text) :
    Finds excluded base above (Listing.cons name node rest) [] where
  sound := by simp
  distinct := List.nodup_nil
  complete := by
    intro short
    have found : (Listing.cons name node rest).at? [name] = some node := by
      rw [Listing.at?_singleton, Listing.find?_cons, if_pos rfl]
    exact absurd (short [name] node found (visible_single shown)) (Nat.not_lt.mpr long)

/-- What is found at an entry and behind it is told apart by the first name. -/
theorem Finds.append (here : Finds excluded base above (Listing.cons name node .nil) files)
    (behind : Finds excluded base above rest behindFiles) (fresh : name ∉ rest.entryNames) :
    Finds excluded base above (Listing.cons name node rest) (files ++ behindFiles) where
  sound := by
    intro file member
    rcases List.mem_append.mp member with isHere | isBehind
    · obtain ⟨names, same, shows⟩ := here.sound file isHere
      exact ⟨names, same, (shows_cons_iff fresh).mpr (.inl shows)⟩
    · obtain ⟨names, same, shows⟩ := behind.sound file isBehind
      exact ⟨names, same, (shows_cons_iff fresh).mpr (.inr shows)⟩
  distinct := by
    rw [List.map_append, List.nodup_append']
    refine ⟨here.distinct, behind.distinct, ?_⟩
    intro names isHere isBehind
    obtain ⟨file, member, rfl⟩ := List.mem_map.mp isHere
    obtain ⟨other, otherMember, same⟩ := List.mem_map.mp isBehind
    obtain ⟨names, isNames, shows⟩ := here.sound file member
    obtain ⟨others, isOthers, otherShows⟩ := behind.sound other otherMember
    -- A file of both parts would have the name of the entry, and so would an entry behind it.
    obtain rfl : others = names :=
      List.append_cancel_left (isOthers.symm.trans (same.trans isNames))
    obtain ⟨first, more, rfl⟩ := List.exists_cons_of_ne_nil shows.named
    obtain rfl := Listing.eq_of_at?_cons_nil node shows.found
    exact fresh (Listing.mem_entryNames_of_at? otherShows.found)
  complete := by
    intro short names content shows
    rw [List.mem_append]
    exact ((shows_cons_iff fresh).mp shows).imp (here.complete (short.here fresh) names content)
      (behind.complete (short.behind fresh) names content)

theorem finds_atEntry (node : Node) {here behind : List Finding} (fresh : name ∉ rest.entryNames)
    (findsHere : isHidden name = false →
      Finds excluded base above (Listing.cons name node .nil) (here.filterMap Finding.file?))
    (findsBehind : Finds excluded base above rest (behind.filterMap Finding.file?)) :
    Finds excluded base above (Listing.cons name node rest)
      ((atEntry base above name here behind).filterMap Finding.file?) := by
  unfold atEntry
  dsimp only
  cases hidden : isHidden name with
  | true => exact findsBehind.skip fresh hidden
  | false =>
    rw [if_neg (by decide)]
    split
    · rename_i long
      exact finds_tooLong hidden long
    · rw [List.filterMap_append]
      exact (findsHere hidden).append findsBehind fresh

end Entry

/-- A scan finds what it is to find, whatever the tree. -/
theorem finds_visited (excluded : List Name) (base : Path) {above : List Name} {entries : Listing}
    (distinct : entries.Distinct) :
    Finds excluded base above entries (visited excluded base above entries) := by
  unfold visited
  -- By induction on the entries and on what is in them: `above` grows on the way down, and an entry is
  -- put before what is behind it.
  induction entries generalizing above with
  | nil => exact finds_nil
  | file name content rest inductionHypothesis =>
    exact finds_atEntry (.file content) distinct.1 (fun shown => finds_file content shown)
      (inductionHypothesis distinct.2)
  | link name target rest inductionHypothesis =>
    exact finds_atEntry (.link target) distinct.1 (fun _ => finds_link target)
      (inductionHypothesis distinct.2)
  | directory name children rest inside inductionHypothesis =>
    refine finds_atEntry (.directory children) distinct.1 (fun shown => ?_)
      (inductionHypothesis distinct.2.2)
    have below : Finds excluded base (above ++ [name]) children _ := inside distinct.2.1
    have found := finds_directory below shown
    split
    · rename_i isExcluded
      rwa [if_pos isExcluded] at found
    · rename_i entered
      rwa [if_neg entered] at found

end Steps

/-! ## The scan of a project -/

/-- A file that is looked for: one that a scan is to find, with a suffix that is asked for. -/
def Wanted (suffixes : List (List Char)) (excluded : List Name) (entries : Listing)
    (file : SourceFile) : Prop :=
  Shows excluded entries file.names file.content ∧
    ∃ ext ∈ suffixes, IsSuffix (file.names.getLastD []) ext

namespace Project

variable {system : System} {path base : Path} {entries : Listing}

theorem listing_of_entriesAt (resolved : system.resolve path = .ok base)
    (read : system.entriesAt base = .ok entries) : listing system path = .ok (base, entries) := by
  have found : system.nodeAt base = .ok (.directory entries) := by
    unfold System.entriesAt at read
    obtain ⟨node, found, read⟩ := bind_eq_ok.mp read
    split at read
    · cases read
      exact found
    · cases read
  have isThere : system.exists? base = .ok true := by
    unfold System.exists?
    rw [found]
    rfl
  have isDirectory : system.isDirectory? base = .ok true := by
    unfold System.isDirectory?
    rw [found]
    rfl
  unfold listing
  rw [resolved, mapError_ok, ok_bind, isThere, mapError_ok, ok_bind, if_neg (by decide), isDirectory,
    mapError_ok]
  simp only [ok_bind, read, mapError_ok]
  rfl

theorem distinct_entries (distinct : system.root.Distinct)
    (read : system.entriesAt base = .ok entries) : entries.Distinct := by
  unfold System.entriesAt at read
  obtain ⟨node, found, read⟩ := bind_eq_ok.mp read
  obtain ⟨place, -, isThere⟩ := System.nodeAt_iff.mp found
  split at read
  · cases read
    exact distinct.of_at? isThere
  · cases read

/-- What a scan returns, given what stands below the directory that it starts at: the files in strict
order, and the size of all that it has visited.  Nothing is lost where all paths are short enough. -/
structure Scanned (suffixes : List (List Char)) (excluded : List Name) (base : Path)
    (entries : Listing) (files : List SourceFile) (size : Nat) : Prop where
  ordered : files.Pairwise fun before behind => before.names < behind.names
  sound : ∀ file ∈ files, Wanted suffixes excluded entries file
  complete : Short excluded base [] entries →
    ∀ file, Wanted suffixes excluded entries file → file ∈ files
  sized : ∃ all : List SourceFile, all.Nodup ∧
    (∀ file ∈ all, Shows excluded entries file.names file.content) ∧
    (Short excluded base [] entries →
      ∀ file : SourceFile, Shows excluded entries file.names file.content → file ∈ all) ∧
    size = (all.map fun file => file.content.size).sum

theorem Scanned.eq {suffixes : List (List Char)} {excluded : List Name} {otherBase : Path}
    {otherEntries : Listing} {files otherFiles : List SourceFile} {size otherSize : Nat}
    (scanned : Scanned suffixes excluded base entries files size)
    (otherScanned : Scanned suffixes excluded otherBase otherEntries otherFiles otherSize)
    (short : Short excluded base [] entries) (otherShort : Short excluded otherBase [] otherEntries)
    (same : ∀ names content,
      otherEntries.at? names = some (.file content) ↔ entries.at? names = some (.file content)) :
    otherFiles = files ∧ otherSize = size := by
  have shows (names : List Name) (content : Content) :
      Shows excluded otherEntries names content ↔ Shows excluded entries names content :=
    ⟨fun shows => ⟨(same _ _).mp shows.found, shows.visible⟩,
      fun shows => ⟨(same _ _).mpr shows.found, shows.visible⟩⟩
  constructor
  · refine eq_of_ordered otherScanned.ordered scanned.ordered fun file => ?_
    constructor
    · intro member
      obtain ⟨isShown, hasSuffix⟩ := otherScanned.sound file member
      exact scanned.complete short file ⟨(shows _ _).mp isShown, hasSuffix⟩
    · intro member
      obtain ⟨isShown, hasSuffix⟩ := scanned.sound file member
      exact otherScanned.complete otherShort file ⟨(shows _ _).mpr isShown, hasSuffix⟩
  · obtain ⟨all, nodup, sound, complete, rfl⟩ := scanned.sized
    obtain ⟨others, otherNodup, otherSound, otherComplete, rfl⟩ := otherScanned.sized
    -- The two scans may visit the files in different orders, which does not matter for a sum.
    have order : others.Perm all := by
      refine (List.perm_ext_iff_of_nodup otherNodup nodup).mpr fun file => ?_
      exact ⟨fun member => complete short file ((shows _ _).mp (otherSound file member)),
        fun member => otherComplete otherShort file ((shows _ _).mpr (sound file member))⟩
    exact (order.map _).sum_nat

/-- What a scan comes to below a directory. -/
theorem scanned (distinct : system.root.Distinct) (resolved : system.resolve path = .ok base)
    (read : system.entriesAt base = .ok entries) (suffixes : List (List Char)) (excluded : List Name) :
    ∃ files size, scan system ⟨suffixes, excluded⟩ path = .ok files ∧
      totalSize system excluded path = .ok size ∧
      Scanned suffixes excluded base entries files size := by
  have listed := listing_of_entriesAt resolved read
  have finds : Finds excluded base [] entries (visited excluded base [] entries) :=
    finds_visited excluded base (distinct_entries distinct read)
  generalize isVisited : visited excluded base [] entries = all at finds
  have scans : scan system ⟨suffixes, excluded⟩ path =
      .ok (sortFiles (all.filter fun file => suffixes.contains file.suffix)) := by
    unfold scan
    rw [listed, ok_bind]
    dsimp only
    rw [isVisited]
    rfl
  have sizes : totalSize system excluded path =
      .ok (all.map fun file => file.content.size).sum := by
    unfold totalSize
    rw [listed, ok_bind, List.sum_eq_foldl_nat]
    dsimp only
    rw [isVisited]
    rfl
  have order : (sortFiles (all.filter fun file => suffixes.contains file.suffix)).Perm _ :=
    List.mergeSort_perm _ _
  have hasSuffix (file : SourceFile) :
      suffixes.contains file.suffix = true ↔ ∃ ext ∈ suffixes, IsSuffix (file.names.getLastD []) ext := by
    simp [isSuffix_iff, SourceFile.suffix]
  refine ⟨_, _, scans, sizes, ?_, ?_, ?_, all, ?_, ?_, ?_, rfl⟩
  · exact sortFiles_ordered (finds.distinct.sublist (List.filter_sublist.map _))
  · intro file member
    rw [order.mem_iff, List.mem_filter, hasSuffix] at member
    obtain ⟨names, same, shows⟩ := finds.sound file member.1
    rw [List.nil_append] at same
    exact ⟨same ▸ shows, member.2⟩
  · intro short file wanted
    rw [order.mem_iff, List.mem_filter, hasSuffix]
    exact ⟨finds.complete short _ _ wanted.1, wanted.2⟩
  · exact finds.distinct.of_map _
  · intro file member
    obtain ⟨names, same, shows⟩ := finds.sound file member
    rw [List.nil_append] at same
    exact same ▸ shows
  · intro short file shows
    exact finds.complete short _ _ shows

/-- A file below a number of directories, each in the other. -/
def nested (directory : Name) : Nat → Listing
  | 0 => .file "f.js".toList (.ofBytes []) .nil
  | depth + 1 => .directory directory (nested directory depth) .nil

/-- A name of 250 bytes. -/
def longName : Name := List.replicate 250 'a'

end Project

end ProjectGauge
