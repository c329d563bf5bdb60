import ProjectGauge.Proofs.Files.Overlong
import ProjectGauge.Proofs.Project.Dependencies
import ProjectGauge.Proofs.Project.Skipped
import ProjectGauge.Proofs.Usage.Expression

/-!
# What can fail in the search for dependencies

A failure leaves a project without dependencies, and a note.  It is the reading of the manifest that fails:
behind it every expression can be read, every file that is found has bytes, and every version has a text.
Only a project at a place whose own path is too long for the system is not scanned.

* `CanBeScanned` says that no path is too long to which the resolution of the path of a project comes.
* `RunsThrough` says what is done behind the manifest without a failure.
* `dependencies_failures` puts together when the manifest is read and what follows from it.
-/

namespace ProjectGauge

open Files

/-! ## Versions -/

namespace Manifest

open Json (IsLast merge settledMembers)

variable {system : System} {project : Path} {name : String} {members entries : List (String × Json.Value)}

theorem hasText_of_isLast {value : Json.Value} (isLast : IsLast name members value)
    (hasText : Json.MembersHaveText (merge [] (settledMembers members))) : value.settled.HasText :=
  Json.membersHaveText_iff.mp hasText _ (Json.mem_of_lookup (lookup_settled isLast))

theorem IsSection.hasText (isSection : IsSection name members entries)
    (hasText : Json.MembersHaveText (merge [] (settledMembers members))) :
    Json.MembersHaveText (merge [] (settledMembers entries)) := by
  cases isSection with
  | missing => trivial
  | object isLast => exact hasText_of_isLast isLast hasText
  | falsy => trivial

/-- Every version that is declared can be written as a text. -/
theorem Declares.hasText {declared : Declared} (declares : Declares system project declared) :
    ∀ entry ∈ declared, entry.2.HasText := by
  intro entry isDeclared
  cases declares with
  | missing => cases isDeclared
  | written isFile encoded spells isRuntime isDevelopment merges =>
    have hasText : Json.MembersHaveText (merge [] (settledMembers _)) := spells.hasText
    obtain ⟨version, isVersion, isLast | ⟨-, isLast⟩⟩ := merges.version isDeclared
    · rw [isVersion]
      exact hasText_of_isLast isLast (isDevelopment.hasText hasText)
    · rw [isVersion]
      exact hasText_of_isLast isLast (isRuntime.hasText hasText)

/-- Where something is declared, there is a manifest. -/
theorem Declares.manifest {declared : Declared} (declares : Declares system project declared)
    (some : declared ≠ []) : ∃ node, system.nodeAt (place project) = .ok node := by
  cases declares with
  | missing => exact absurd rfl some
  | written isFile => exact ⟨_, isFile⟩

end Manifest

/-! ## Files that are found -/

section Visited

variable {excluded : List Name} {base : Path} {above : List Name} {name : Name} {here behind : List Finding}
  {file : SourceFile}

theorem mem_atEntry (member : Finding.file file ∈ atEntry base above name here behind) :
    (Finding.file file ∈ here ∧ Text.Utf8.byteLength (base.below (above ++ [name])).text < pathLimit) ∨
      Finding.file file ∈ behind := by
  unfold atEntry at member
  dsimp only at member
  split at member
  · exact .inr member
  split at member
  · cases List.mem_singleton.mp member
  · rename_i short
    exact (List.mem_append.mp member).imp (⟨·, Nat.lt_of_not_le short⟩) id

/-- A scan asks for every file that it finds, so the system accepts the path of each. -/
theorem short_of_mem_findings {entries : Listing}
    (member : Finding.file file ∈ findings excluded base above entries) :
    Text.Utf8.byteLength (base.below file.names).text < pathLimit := by
  induction entries generalizing above with
  | nil => cases member
  | file name content rest inductionHypothesis =>
    rcases mem_atEntry member with ⟨isHere, short⟩ | isBehind
    · cases List.mem_singleton.mp isHere
      exact short
    · exact inductionHypothesis isBehind
  | link name target rest inductionHypothesis =>
    rcases mem_atEntry member with ⟨isHere, -⟩ | isBehind
    · cases isHere
    · exact inductionHypothesis isBehind
  | directory name children rest inside inductionHypothesis =>
    rcases mem_atEntry member with ⟨isHere, -⟩ | isBehind
    · split at isHere
      · cases isHere
      · exact inside isHere
    · exact inductionHypothesis isBehind

theorem short_of_mem_visited {entries : Listing} (member : file ∈ visited excluded base above entries) :
    Text.Utf8.byteLength (base.below file.names).text < pathLimit := by
  unfold visited at member
  obtain ⟨finding, isFound, isFile⟩ := List.mem_filterMap.mp member
  cases finding with
  | file found =>
    cases isFile
    exact short_of_mem_findings isFound
  | tooLong => cases isFile

end Visited

namespace Project

/-! ## Projects that can be scanned -/

/-- Where a path leads to a directory, the directory is listed, as long as no path is too long to which the
resolution comes. -/
theorem listing_of_leads {system : System} {project : Path} {place : List Name} {entries : Listing}
    (named : system.root.Named) (parsed : System.IsParsed project) (short : system.StaysShort project)
    (leads : system.Leads project place) (found : system.at? place = some (.directory entries)) :
    listing system project = .ok (.ofNames place, entries) := by
  have routed := leads.routed named parsed short
  have reached := System.leads_ofNames named found rfl (short.atEnd place leads)
  refine listing_of_entriesAt (routed.resolve_eq reached) ?_
  unfold System.entriesAt
  rw [System.nodeAt_iff.mpr ⟨_, reached, found⟩]
  rfl

/-- A project in a tree with entries that a system can have.  If it declares anything, no path is too long to
which the resolution of its own path comes. -/
structure CanBeScanned (system : System) (project : Path) : Prop where
  distinct : system.root.Distinct
  named : system.root.Named
  parsed : System.IsParsed project
  short : ∀ declared, Manifest.declared system project = .ok declared → declared ≠ [] →
    system.StaysShort project

variable {system : System} {project : Path} {declared : Manifest.Declared}

/-- Where there is a manifest that declares anything, there is a directory that can be scanned. -/
theorem CanBeScanned.isListed (canBeScanned : CanBeScanned system project)
    (read : Manifest.declared system project = .ok declared) (nonempty : declared ≠ []) :
    ∃ place entries, system.at? place = some (.directory entries) ∧
      listing system project = .ok (.ofNames place, entries) := by
  obtain ⟨node, isThere⟩ := (Manifest.declared_eq_ok_iff.mp read).manifest nonempty
  obtain ⟨_, leads, -⟩ := System.nodeAt_iff.mp isThere
  obtain ⟨place, leadsAbove, entries, found⟩ := leads.parentPath (by simp [Manifest.place, Path.child])
  have above : (Manifest.place project).parentPath = project := by
    simp [Manifest.place, Path.child, Path.parentPath]
  rw [above] at leadsAbove
  exact ⟨place, entries, found, listing_of_leads canBeScanned.named canBeScanned.parsed
    (canBeScanned.short declared read nonempty) leadsAbove found⟩

/-- All files that a scan finds can be read. -/
theorem CanBeScanned.readable {place : List Name} {entries : Listing}
    (canBeScanned : CanBeScanned system project)
    (found : system.at? place = some (.directory entries))
    (listed : listing system project = .ok (.ofNames place, entries)) :
    ∃ files, sources system project = .ok files ∧ ∀ file ∈ files.value,
      system.bytesAt ((Path.ofNames place).below file.names) = .ok file.content.allBytes := by
  have scanned : sources system project = .ok ⟨sortFiles ((visited excludedDirectories (.ofNames place) []
      entries).filter fun file => sourceSuffixes.contains file.suffix),
        scanNotes system excludedDirectories project⟩ := by
    unfold sources scan
    rw [listed]
    rfl
  refine ⟨_, scanned, fun file member => ?_⟩
  dsimp only at member
  rw [sortFiles, List.mem_mergeSort, List.mem_filter] at member
  have finds : Finds excludedDirectories (.ofNames place) [] entries _ :=
    finds_visited excludedDirectories (.ofNames place) (canBeScanned.distinct.of_at? found)
  obtain ⟨names, same, shows⟩ := finds.sound file member.1
  rw [List.nil_append] at same
  subst same
  -- The path below the project is the path along the names of the file.
  have isFile : system.at? (place ++ file.names) = some (.file file.content) := by
    rw [System.at?, Listing.at?_append _ found]
    exact shows.found
  have leads : system.Leads ((Path.ofNames place).below file.names) (place ++ file.names) :=
    System.leads_ofNames canBeScanned.named isFile rfl (short_of_mem_visited member.1)
  exact System.bytesAt_of_nodeAt (System.nodeAt_iff.mpr ⟨_, leads, isFile⟩)

/-! ## Behind the manifest -/

/-- What is done for declared packages, and does not fail: the expressions are read, the project is scanned,
the files that are found are read, and a dependency is made of each package. -/
structure RunsThrough (system : System) (project : Path) (declared : Manifest.Declared) : Prop where
  expressions : ∀ package ∈ declared.map Prod.fst,
    (Text.Expression.read (Usage.requireExpression package.toList)).isSome ∧
      (Text.Expression.read (Usage.fromExpression package.toList)).isSome
  files : declared ≠ [] → ∃ base entries found, listing system project = .ok (base, entries) ∧
    sources system project = .ok found ∧
    ∀ file ∈ found.value, system.bytesAt (base.below file.names) = .ok file.content.allBytes
  versions : ∀ entry ∈ declared, entry.2.HasText
  records : ∀ entry ∈ declared, ∀ count : Int,
    Dependency.ofRecord [("name", .text entry.1), ("version", entry.2), ("count", .int count)] =
      .ok ⟨entry.1, Dependency.displayVersion entry.2, count⟩

theorem CanBeScanned.runsThrough (canBeScanned : CanBeScanned system project)
    (read : Manifest.declared system project = .ok declared) : RunsThrough system project declared where
  expressions package _ := by
    rw [Usage.read_requireExpression, Usage.read_fromExpression]
    exact ⟨rfl, rfl⟩
  files some := by
    obtain ⟨place, entries, isDirectory, listed⟩ := canBeScanned.isListed read some
    obtain ⟨found, scanned, readable⟩ := canBeScanned.readable isDirectory listed
    exact ⟨_, entries, found, listed, scanned, readable⟩
  versions := (Manifest.declared_eq_ok_iff.mp read).hasText
  records _ _ _ := rfl

/-- Dependencies are found where the manifest is read and what comes behind it runs through. -/
theorem RunsThrough.found (runsThrough : RunsThrough system project declared)
    (read : Manifest.declared system project = .ok declared) :
    ∃ found, dependencies? system project = .ok found := by
  unfold dependencies?
  rw [read, mapError_ok, ok_bind]
  cases declared with
  | nil => exact ⟨_, rfl⟩
  | cons entry others =>
    obtain ⟨_, _, files, -, scanned, -⟩ := runsThrough.files (List.cons_ne_nil _ _)
    rw [scanned]
    exact ⟨_, rfl⟩

theorem dependencies?_unread {e : Manifest.ManifestError}
    (failed : Manifest.declared system project = .error e) :
    dependencies? system project = .error (.manifest e) := by
  unfold dependencies?
  rw [failed]
  rfl

/-- The manifest of a project is read unless it is refused.  If it is refused, the search for dependencies
fails, which leaves a note and no dependencies.  There is no other way to fail, as long as the project can be
scanned. -/
theorem dependencies_failures (system : System) (project : Path) :
    (∀ declared, Manifest.declared system project = .ok declared ↔
        Manifest.Declares system project declared) ∧
      ((∃ e, Manifest.declared system project = .error e) ↔ Manifest.IsRefused system project) ∧
      (∀ e, Manifest.declared system project = .error e →
        dependencies? system project = .error (.manifest e)) ∧
      ((∃ found, dependencies? system project = .ok found ∧ dependencies system project = found) ∨
        ∃ e, dependencies? system project = .error e ∧ dependencies system project =
          .withNote [] (.error ("Error analyzing dependencies: " ++ e.message))) ∧
      (CanBeScanned system project →
        ((∃ e, dependencies? system project = .error e) ↔
          ∃ e, Manifest.declared system project = .error e) ∧
        ∀ declared, Manifest.declared system project = .ok declared →
          RunsThrough system project declared) := by
  refine ⟨fun _ => Manifest.declared_eq_ok_iff, Manifest.declared_fails_iff, fun _ => dependencies?_unread,
    ?_, fun canBeScanned => ⟨⟨?_, ?_⟩, fun _ => canBeScanned.runsThrough⟩⟩
  · unfold dependencies
    cases dependencies? system project with
    | error e => exact .inr ⟨e, rfl, rfl⟩
    | ok found => exact .inl ⟨found, rfl, rfl⟩
  · rintro ⟨e, failed⟩
    cases read : Manifest.declared system project with
    | error e => exact ⟨e, rfl⟩
    | ok declared =>
      obtain ⟨found, isFound⟩ := (canBeScanned.runsThrough read).found read
      rw [failed] at isFound
      cases isFound
  · rintro ⟨e, failed⟩
    exact ⟨_, dependencies?_unread failed⟩

theorem canBeScanned_declaringTree : CanBeScanned ⟨declaringTree, []⟩ (Path.parse "/p".toList) where
  distinct := by decide +kernel
  named := by decide +kernel
  parsed := System.isParsed_parse _
  short _ _ _ := by
    have isDirectory : System.HasDirectory ⟨declaringTree, []⟩ [['p']] := ⟨_, rfl⟩
    have plain := isDirectory.isPlain fun name member =>
      List.mem_singleton.mp member ▸ ⟨by decide, by decide, by decide, by decide⟩
    have routed := plain.routed ⟨by decide, by decide +kernel⟩
    exact routed.staysShort (System.isParsed_parse "/p".toList) (by decide +kernel)

/-- A project in `/p` with an empty manifest. -/
def emptyManifest : System :=
  ⟨.directory ['p'] (.file "package.json".toList (.ofBytes []) .nil) .nil, []⟩

/-- One project runs through, and the manifest of the other is refused. -/
theorem dependencies_failures_sample :
    (∃ declared, Manifest.declared ⟨declaringTree, []⟩ (Path.parse "/p".toList) = .ok declared ∧
      declared ≠ [] ∧ RunsThrough ⟨declaringTree, []⟩ (Path.parse "/p".toList) declared) ∧
      Manifest.IsRefused emptyManifest (Path.parse "/p".toList) ∧
      (dependencies emptyManifest (Path.parse "/p".toList)).notes =
        [.error "Error analyzing dependencies: Expecting value: line 1 column 1 (char 0)"] := by
  constructor
  · obtain ⟨-, -, -, -, onceRead⟩ := dependencies_failures ⟨declaringTree, []⟩ (Path.parse "/p".toList)
    obtain ⟨declared, read, names⟩ := declared_declaringTree
    refine ⟨declared, read, ?_, (onceRead canBeScanned_declaringTree).2 declared read⟩
    rintro rfl
    cases names
  · obtain ⟨-, refused, -⟩ := dependencies_failures emptyManifest (Path.parse "/p".toList)
    exact ⟨refused.mp (exists_eq_error (by decide +kernel)), by decide +kernel⟩

/-! ## Paths that are too long -/

/-- A project below nine directories, whose path goes through a link to the end of eight others.  The path
from the root along all seventeen is longer than the system allows. -/
def shortcutTree : Listing :=
  .link ['l'] (joined ['/'] (List.replicate 8 longName))
    (deep (.file "package.json".toList (.ofBytes (Text.Utf8.encode
        "\x7b\x22dependencies\x22:\x7b\x22x\x22:\x221\x22\x7d\x7d".toList))
      (.file "f.js".toList (.ofBytes (Text.Utf8.encode "require('x')".toList)) .nil)) 17)

def shortcutProject : Path :=
  Path.parse (joined ['/'] (['l'] :: List.replicate 9 longName))

/-- In a tree without entries there is no manifest, and yet for a project with a long name its reading fails.
The manifest of the other project is read, and yet the search for its dependencies fails. -/
theorem long_paths_fail :
    ((System.mk .nil []).at? (Manifest.place (Path.parse (List.replicate 256 'a'))).names).isNone = true ∧
      (∃ e, Manifest.declared ⟨.nil, []⟩ (Path.parse (List.replicate 256 'a')) = .error e) ∧
      (∃ declared, Manifest.declared ⟨shortcutTree, []⟩ shortcutProject = .ok declared) ∧
      ∃ e, dependencies? ⟨shortcutTree, []⟩ shortcutProject = .error e :=
  ⟨by decide +kernel, exists_eq_error (by decide +kernel), exists_eq_ok (by decide +kernel),
    exists_eq_error (by decide +kernel)⟩

end Project
end ProjectGauge
