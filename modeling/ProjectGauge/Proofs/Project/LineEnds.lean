import ProjectGauge.Project.Imports
import ProjectGauge.Project.Usage
import ProjectGauge.Proofs.Files.Alike
import ProjectGauge.Proofs.Text.LineEnds

/-!
# Line ends make no difference

A file may be written with line feeds, with carriage returns or with both, and a project is analysed alike:
the same dependencies and the same imports are found in it.

* `Listing.SameLines` relates file trees that differ in the line ends of some files, and `System.SameLines` file
  systems.
* `SameLines.nodeAt`: every path leads to entries that differ no more.
* `line_ends_irrelevant`: the results for two projects that differ in line ends.
-/

namespace ProjectGauge

namespace Files

/-! ## Trees that differ in line ends -/

/-- Two file trees with the same entries.  Each file of the second is that of the first, perhaps with other
line ends. -/
inductive Listing.SameLines : Listing → Listing → Prop where
  | nil : SameLines .nil .nil
  | file {name : Name} {content other : Content} {rest others : Listing}
    (lines : Text.SameLines content.allBytes other.allBytes) (behind : SameLines rest others) :
    SameLines (.file name content rest) (.file name other others)
  | link {name : Name} {target : List Char} {rest others : Listing} (behind : SameLines rest others) :
    SameLines (.link name target rest) (.link name target others)
  | directory {name : Name} {children otherChildren rest others : Listing}
    (inside : SameLines children otherChildren) (behind : SameLines rest others) :
    SameLines (.directory name children rest) (.directory name otherChildren others)

/-- Entries of such trees. -/
inductive Node.SameLines : Node → Node → Prop where
  | file {content other : Content} (lines : Text.SameLines content.allBytes other.allBytes) :
    SameLines (.file content) (.file other)
  | link (target : List Char) : SameLines (.link target) (.link target)
  | directory {children others : Listing} (inside : children.SameLines others) :
    SameLines (.directory children) (.directory others)

theorem Node.SameLines.kind {node other : Node} (same : node.SameLines other) : other.kind = node.kind := by
  cases same <;> rfl

theorem Node.SameLines.isDirectory {node other : Node} (same : node.SameLines other) :
    other.isDirectory = node.isDirectory :=
  congrArg Prod.fst same.kind

namespace Listing.SameLines

variable {listing other : Listing}

theorem linkCount (same : listing.SameLines other) : other.linkCount = listing.linkCount := by
  induction same with
  | nil => rfl
  | file _ _ inductionHypothesis => exact inductionHypothesis
  | link _ inductionHypothesis => exact congrArg (· + 1) inductionHypothesis
  | directory _ _ insideHypothesis inductionHypothesis =>
    exact congrArg₂ (· + ·) insideHypothesis inductionHypothesis

/-- A name stands for nothing in both trees, or for entries that differ in line ends. -/
theorem find? (same : listing.SameLines other) (name : Name) :
    Option.Rel Node.SameLines (listing.find? name) (other.find? name) := by
  induction same with
  | nil => exact .none
  | file lines _ inductionHypothesis =>
    unfold Listing.find?
    split
    · exact .some (.file lines)
    · exact inductionHypothesis
  | link _ inductionHypothesis =>
    unfold Listing.find?
    split
    · exact .some (.link _)
    · exact inductionHypothesis
  | directory inside _ _ inductionHypothesis =>
    unfold Listing.find?
    split
    · exact .some (.directory inside)
    · exact inductionHypothesis

theorem at? (same : listing.SameLines other) (names : List Name) :
    Option.Rel Node.SameLines (listing.at? names) (other.at? names) := by
  induction names generalizing listing other with
  | nil => exact .some (.directory same)
  | cons name rest inductionHypothesis =>
    have found := same.find? name
    unfold Listing.at?
    generalize listing.find? name = first at found ⊢
    generalize other.find? name = second at found ⊢
    cases found with
    | none => cases rest <;> exact .none
    | some here =>
      cases here with
      | directory inside => exact inductionHypothesis inside
      | file lines => cases rest <;> first | exact .none | exact .some (.file lines)
      | link target => cases rest <;> first | exact .none | exact .some (.link target)

end Listing.SameLines

namespace System

/-- File systems with trees that differ in line ends. -/
structure SameLines (before after : System) : Prop where
  here : after.here = before.here
  root : before.root.SameLines after.root

namespace SameLines

variable {before after : System}

theorem alike (same : before.SameLines after) : before.Alike after where
  here := same.here
  linkCount := same.root.linkCount
  kinds place := by
    have found := same.root.at? place
    unfold System.at?
    generalize before.root.at? place = first at found ⊢
    generalize after.root.at? place = second at found ⊢
    cases found with
    | none => rfl
    | some here => exact congrArg some here.kind

/-- Every path leads to the same kind of failure, or to entries that differ in line ends. -/
theorem nodeAt (same : before.SameLines after) (path : Path) :
    ResultRel Node.SameLines (before.nodeAt path) (after.nodeAt path) := by
  unfold System.nodeAt
  rw [same.alike.walk]
  refine .bind_same fun place => ?_
  have found := same.root.at? place
  unfold System.at?
  generalize before.root.at? place = first at found ⊢
  generalize after.root.at? place = second at found ⊢
  cases found with
  | none => exact .error _
  | some here => exact .ok here

theorem exists? (same : before.SameLines after) (path : Path) : after.exists? path = before.exists? path := by
  unfold System.exists?
  rw [(same.nodeAt path).map_eq fun _ _ _ => rfl]

theorem isDirectory? (same : before.SameLines after) (path : Path) :
    after.isDirectory? path = before.isDirectory? path := by
  unfold System.isDirectory?
  rw [(same.nodeAt path).map_eq fun _ _ here => here.isDirectory.symm]

theorem entriesAt (same : before.SameLines after) (path : Path) :
    ResultRel Listing.SameLines (before.entriesAt path) (after.entriesAt path) := by
  refine (same.nodeAt path).bind fun node other here => ?_
  cases here with
  | directory inside => exact .ok inside
  | file _ | link _ => exact .error _

theorem bytesAt (same : before.SameLines after) (path : Path) :
    ResultRel Text.SameLines (before.bytesAt path) (after.bytesAt path) := by
  refine (same.nodeAt path).bind fun node other here => ?_
  cases here with
  | file lines => exact .ok lines
  | directory _ | link _ => exact .error _

end SameLines
end System
end Files

open Files

/-! ## Scans -/

/-- What is read of a source file. -/
def SourceFile.seen (file : SourceFile) : List Name × List Char :=
  (file.names, file.text)

theorem SourceFile.seen_eq {names : List Name} {content other : Content}
    (lines : Text.SameLines content.allBytes other.allBytes) :
    (SourceFile.mk names other).seen = (SourceFile.mk names content).seen :=
  congrArg (names, ·) lines.unify_decodeLossy

section Findings

variable {α : Type} {observe : Finding → Option α} {excluded : List Name} {base : Path}

theorem filterMap_atEntry {above : List Name} {name : Name} {here otherHere behind otherBehind : List Finding}
    (sameHere : otherHere.filterMap observe = here.filterMap observe)
    (sameBehind : otherBehind.filterMap observe = behind.filterMap observe) :
    (atEntry base above name otherHere otherBehind).filterMap observe =
      (atEntry base above name here behind).filterMap observe := by
  unfold atEntry
  dsimp only
  split
  · exact sameBehind
  · split
    · rfl
    · rw [List.filterMap_append, List.filterMap_append, sameHere, sameBehind]

/-- A scan comes across the same in two trees that differ in line ends, for one who sees no line ends. -/
theorem filterMap_findings {entries others : Listing} (same : entries.SameLines others)
    (blind : ∀ names content other, Text.SameLines content.allBytes other.allBytes →
      observe (.file ⟨names, other⟩) = observe (.file ⟨names, content⟩)) (above : List Name) :
    (findings excluded base above others).filterMap observe =
      (findings excluded base above entries).filterMap observe := by
  induction same generalizing above with
  | nil => rfl
  | file lines _ inductionHypothesis =>
    refine filterMap_atEntry ?_ (inductionHypothesis above)
    simp only [List.filterMap_cons, blind _ _ _ lines]
  | link _ inductionHypothesis => exact filterMap_atEntry rfl (inductionHypothesis above)
  | directory _ _ insideHypothesis inductionHypothesis =>
    refine filterMap_atEntry ?_ (inductionHypothesis above)
    split
    · rfl
    · exact insideHypothesis _

theorem map_seen_visited {entries others : Listing} (same : entries.SameLines others) (above : List Name) :
    (visited excluded base above others).map SourceFile.seen =
      (visited excluded base above entries).map SourceFile.seen := by
  unfold visited
  rw [List.map_filterMap, List.map_filterMap]
  refine filterMap_findings same (fun _ _ _ lines => ?_) above
  exact congrArg some (SourceFile.seen_eq lines)

end Findings

theorem map_seen_sortFiles (files : List SourceFile) :
    (sortFiles files).map SourceFile.seen =
      (files.map SourceFile.seen).mergeSort fun a b => (orderOfNames a.1 b.1).isLE :=
  List.map_mergeSort fun _ _ _ _ => rfl

theorem map_seen_filter_suffix (suffixes : List (List Char)) (files : List SourceFile) :
    (files.filter fun file => suffixes.contains file.suffix).map SourceFile.seen =
      (files.map SourceFile.seen).filter fun seen => suffixes.contains (Files.suffix (seen.1.getLastD [])) := by
  rw [List.filter_map]
  rfl

namespace Project

variable {before after : System}

theorem listing_sameLines (same : before.SameLines after) (project : Path) :
    ResultRel (fun found other => other.1 = found.1 ∧ found.2.SameLines other.2) (listing before project)
      (listing after project) := by
  unfold listing
  simp only [same.alike.resolve, same.exists?, same.isDirectory?]
  refine .bind_same fun base => .bind_same fun isThere => ?_
  split
  · exact .error _
  · refine .bind_same fun isDirectory => ?_
    split
    · exact .error _
    · exact ((same.entriesAt base).mapError _).bind fun _ _ entries => .ok ⟨rfl, entries⟩

theorem scanNotes_sameLines (same : before.SameLines after) (excluded : List Name) (project : Path) :
    scanNotes after excluded project = scanNotes before excluded project := by
  unfold scanNotes
  rcases (listing_sameLines same project).cases with
    ⟨e, failed, otherFailed⟩ | ⟨_, _, listed, otherListed, sameBase, entries⟩
  · rw [failed, otherFailed]
  · rw [listed, otherListed]
    dsimp only
    rw [sameBase]
    exact filterMap_findings entries (fun _ _ _ _ => rfl) []

/-- The same files are found in the same order, with the same texts. -/
theorem scan_sameLines (same : before.SameLines after) (rule : ScanRule) (project : Path) :
    ResultRel (fun files others => others.map SourceFile.seen = files.map SourceFile.seen)
      (scan before rule project) (scan after rule project) := by
  unfold scan
  refine (listing_sameLines same project).bind ?_
  rintro ⟨base, entries⟩ ⟨_, others⟩ ⟨rfl, sameEntries⟩
  refine .ok ?_
  rw [map_seen_sortFiles, map_seen_sortFiles, map_seen_filter_suffix, map_seen_filter_suffix,
    map_seen_visited sameEntries]

theorem sources_sameLines (same : before.SameLines after) (project : Path) :
    ResultRel (fun found other => other.notes = found.notes ∧
        other.value.map SourceFile.seen = found.value.map SourceFile.seen)
      (sources before project) (sources after project) := by
  unfold sources
  rw [scanNotes_sameLines same]
  exact (scan_sameLines same .standard project).bind fun _ _ seen => .ok ⟨rfl, seen⟩

/-! ## What is found out -/

theorem map_text_of_seen {files others : List SourceFile}
    (seen : others.map SourceFile.seen = files.map SourceFile.seen) :
    others.map SourceFile.text = files.map SourceFile.text := by
  have texts := congrArg (List.map Prod.snd) seen
  rwa [List.map_map, List.map_map] at texts

/-- The imports of a file are those of its text. -/
theorem addImports_of_seen {file other : SourceFile} (seen : other.seen = file.seen) (known : Noted ImportMap) :
    addImports known other = addImports known file := by
  have names : other.names = file.names := congrArg Prod.fst seen
  have text : other.text = file.text := congrArg Prod.snd seen
  unfold addImports SourceFile.path SourceFile.suffix
  rw [names, text]

theorem foldl_addImports_of_seen {files others : List SourceFile}
    (seen : others.map SourceFile.seen = files.map SourceFile.seen) (known : Noted ImportMap) :
    others.foldl addImports known = files.foldl addImports known := by
  induction files generalizing others known with
  | nil =>
    obtain rfl := List.map_eq_nil_iff.mp seen
    rfl
  | cons file rest inductionHypothesis =>
    obtain ⟨other, behind, rfl, here, seen⟩ := List.map_eq_cons_iff.mp seen
    rw [List.foldl_cons, List.foldl_cons, addImports_of_seen here, inductionHypothesis seen]

/-- A manifest is read alike. -/
theorem toOption_parse {bytes others : List UInt8} (lines : Text.SameLines bytes others) :
    (Manifest.parse others).toOption = (Manifest.parse bytes).toOption := by
  unfold Manifest.parse
  rcases lines.decode_cases with ⟨_, _, failed, otherFailed⟩ | ⟨_, _, decoded, otherDecoded, same⟩
  · rw [failed, otherFailed]
    rfl
  · rw [decoded, otherDecoded, mapError_ok, mapError_ok, ok_bind, ok_bind, same]

/-- The same packages are declared, or the manifest is refused in both file systems. -/
theorem toOption_declared (same : before.SameLines after) (project : Path) :
    (Manifest.declared after project).toOption = (Manifest.declared before project).toOption := by
  unfold Manifest.declared
  dsimp only
  rw [same.exists?]
  cases before.exists? (project.child Manifest.fileName) with
  | error e => rfl
  | ok isThere =>
    cases isThere with
    | false => rfl
    | true =>
      rcases (same.bytesAt (project.child Manifest.fileName)).cases with
        ⟨e, failed, otherFailed⟩ | ⟨_, _, read, otherRead, lines⟩
      · rw [failed, otherFailed]
      · have parsed := toOption_parse lines
        simp only [read, otherRead, mapError_ok, ok_bind, Bool.not_true, Bool.false_eq_true, if_false,
          toOption_bind, parsed]

theorem value_dependencies (system : System) (project : Path) :
    (dependencies system project).value =
      ((dependencies? system project).toOption.map Noted.value).getD [] := by
  unfold dependencies
  cases dependencies? system project <;> rfl

theorem toOption_dependencies (same : before.SameLines after) (project : Path) :
    (dependencies? after project).toOption.map Noted.value =
      (dependencies? before project).toOption.map Noted.value := by
  unfold dependencies?
  rw [toOption_bind, toOption_bind, toOption_mapError, toOption_mapError, toOption_declared same]
  cases (Manifest.declared before project).toOption with
  | none => rfl
  | some declared =>
    rw [Option.bind_some, Option.bind_some]
    split
    · rfl
    · rcases (sources_sameLines same project).cases with
        ⟨e, failed, otherFailed⟩ | ⟨_, _, scanned, otherScanned, sameNotes, seen⟩
      · rw [failed, otherFailed]
      · rw [scanned, otherScanned, mapError_ok, mapError_ok, ok_bind, ok_bind, map_text_of_seen seen, sameNotes]

/-- Where some files are written with other line ends, the same dependencies and the same imports are found in
every project. -/
theorem line_ends_irrelevant (same : before.SameLines after) (project : Path) :
    (dependencies after project).value = (dependencies before project).value ∧
      imports after project = imports before project := by
  constructor
  · rw [value_dependencies, value_dependencies, toOption_dependencies same]
  · refine (((sources_sameLines same project).mapError _).bind ?_).eq.symm
    rintro found other ⟨sameNotes, seen⟩
    refine .ok ?_
    unfold importsOf
    rw [sameNotes, foldl_addImports_of_seen seen]

/-- A project in `/p` with a manifest and a source of some bytes. -/
def sourceTree (bytes : List UInt8) : Listing :=
  .directory ['p']
    (.file Manifest.fileName (.ofBytes (Text.Utf8.encode
        "\x7b\x22dependencies\x22:\x7b\x22x\x22:\x221\x22\x7d\x7d".toList))
      (.file "a.ts".toList (.ofBytes bytes) .nil))
    .nil

/-- Two imports, and between them a character that is broken off in front of a line feed. -/
def brokenSource : List UInt8 :=
  Text.Utf8.encode "import a from 'x'\n//".toList ++ 0xe2 :: Text.Utf8.encode "\nimport 'y'\n".toList

theorem sameLines_sourceTree {bytes others : List UInt8} (lines : Text.SameLines bytes others) :
    System.SameLines ⟨sourceTree bytes, []⟩ ⟨sourceTree others, []⟩ where
  here := rfl
  root := by
    have source : Text.SameLines (Content.ofBytes bytes).allBytes (Content.ofBytes others).allBytes := by
      simpa [Content.ofBytes, Content.allBytes] using lines
    exact .directory (.file (.kept _) (.file source .nil)) .nil

/-- Both imports and the package are found, whatever ends the lines. -/
theorem line_ends_irrelevant_brokenSource :
    (dependencies ⟨sourceTree (Text.LineEnd.carriageReturn.spell brokenSource), []⟩
        (Path.parse "/p".toList)).value =
      (dependencies ⟨sourceTree brokenSource, []⟩ (Path.parse "/p".toList)).value ∧
      imports ⟨sourceTree (Text.LineEnd.both.spell brokenSource), []⟩ (Path.parse "/p".toList) =
        imports ⟨sourceTree brokenSource, []⟩ (Path.parse "/p".toList) ∧
      (dependencies ⟨sourceTree brokenSource, []⟩ (Path.parse "/p".toList)).value.length = 1 ∧
      (imports ⟨sourceTree brokenSource, []⟩ (Path.parse "/p".toList)).toOption.map
        (fun found => found.value.score) = some 2 := by
  have spelled (lineEnd : Text.LineEnd) : Text.SameLines brokenSource (lineEnd.spell brokenSource) :=
    .spelled (by decide) lineEnd
  obtain ⟨sameDependencies, -⟩ :=
    line_ends_irrelevant (sameLines_sourceTree (spelled .carriageReturn)) (Path.parse "/p".toList)
  obtain ⟨-, sameImports⟩ :=
    line_ends_irrelevant (sameLines_sourceTree (spelled .both)) (Path.parse "/p".toList)
  exact ⟨sameDependencies, sameImports, by decide +kernel, by decide +kernel⟩

end Project
end ProjectGauge
