import ProjectGauge.Project.Sources
import ProjectGauge.Proofs.Result
import ProjectGauge.Proofs.Text.Utf8
import Mathlib.Algebra.GroupWithZero.Nat

/-!
# The volume of a file tree

The volume of a tree is the number of bytes in all its files.  Whatever is looked up in a tree is a part
of it and has no greater volume, and the texts that a scan reads have no more characters together.

* `length_texts_le` bounds all source texts of a project by the volume of the tree.
-/

namespace ProjectGauge.Files

/-- The number of bytes in the files of a listing at any depth. -/
def Listing.volume : Listing → Nat
  | .nil => 0
  | .file _ content rest => content.size + rest.volume
  | .link _ _ rest => rest.volume
  | .directory _ children rest => children.volume + rest.volume

/-- The number of the files of a listing at any depth. -/
def Listing.fileCount : Listing → Nat
  | .nil => 0
  | .file _ _ rest => 1 + rest.fileCount
  | .link _ _ rest => rest.fileCount
  | .directory _ children rest => children.fileCount + rest.fileCount

/-- No file of a listing has more bytes than a number of them. -/
def Listing.FilesWithin (bytes : Nat) : Listing → Prop
  | .nil => True
  | .file _ content rest => content.size ≤ bytes ∧ rest.FilesWithin bytes
  | .link _ _ rest => rest.FilesWithin bytes
  | .directory _ children rest => children.FilesWithin bytes ∧ rest.FilesWithin bytes

/-- The number of bytes in the files of an entry. -/
def Node.volume : Node → Nat
  | .file content => content.size
  | .link _ => 0
  | .directory children => children.volume

theorem Content.length_allBytes (content : Content) : content.allBytes.length = content.size := by
  simp [Content.allBytes, Content.size]

/-! ## Parts of a tree -/

namespace Listing

/-- The volume is at most what it would be if all files were as large as they may be. -/
theorem volume_le_fileCount {bytes : Nat} {listing : Listing} (within : listing.FilesWithin bytes) :
    listing.volume ≤ listing.fileCount * bytes := by
  induction listing with
  | nil => exact Nat.zero_le _
  | file name content rest inductionHypothesis =>
    have others := inductionHypothesis within.2
    have here : content.size ≤ bytes := within.1
    simp only [volume, fileCount]
    rw [Nat.add_mul, Nat.one_mul]
    exact Nat.add_le_add here others
  | link name target rest inductionHypothesis => exact inductionHypothesis within
  | directory name children rest inside inductionHypothesis =>
    simp only [volume, fileCount]
    rw [Nat.add_mul]
    exact Nat.add_le_add (inside within.1) (inductionHypothesis within.2)

theorem volume_find?_le {name : Name} {listing : Listing} {node : Node}
    (found : listing.find? name = some node) : node.volume ≤ listing.volume := by
  induction listing with
  | nil => cases found
  | file other content rest inductionHypothesis =>
    simp only [find?] at found
    simp only [volume]
    split at found
    · cases found
      exact Nat.le_add_right _ _
    · have part := inductionHypothesis found
      omega
  | link other target rest inductionHypothesis =>
    simp only [find?] at found
    simp only [volume]
    split at found
    · cases found
      exact Nat.zero_le _
    · exact inductionHypothesis found
  | directory other children rest _ inductionHypothesis =>
    simp only [find?] at found
    simp only [volume]
    split at found
    · cases found
      exact Nat.le_add_right _ _
    · have part := inductionHypothesis found
      omega

theorem volume_at?_le {names : List Name} {listing : Listing} {node : Node}
    (found : listing.at? names = some node) : node.volume ≤ listing.volume := by
  induction names generalizing listing with
  | nil =>
    cases found
    exact Nat.le_refl _
  | cons name rest inductionHypothesis =>
    simp only [at?] at found
    split at found
    · -- The way goes on below a directory, whose volume is a part of the whole.
      rename_i children isDirectory
      exact Nat.le_trans (inductionHypothesis found) (volume_find?_le isDirectory)
    · split at found
      · exact volume_find?_le found
      · cases found

end Listing

namespace System

theorem volume_nodeAt_le {system : System} {path : Path} {node : Node}
    (found : system.nodeAt path = .ok node) : node.volume ≤ system.root.volume := by
  unfold nodeAt at found
  obtain ⟨place, walked, found⟩ := bind_eq_ok.mp found
  split at found
  · rename_i other isThere
    cases found
    exact Listing.volume_at?_le isThere
  · cases found

theorem length_bytesAt_le {system : System} {path : Path} {bytes : List UInt8}
    (read : system.bytesAt path = .ok bytes) : bytes.length ≤ system.root.volume := by
  unfold bytesAt at read
  obtain ⟨node, found, read⟩ := bind_eq_ok.mp read
  split at read
  · rename_i content
    cases read
    rw [content.length_allBytes]
    exact volume_nodeAt_le found
  · cases read

theorem volume_entriesAt_le {system : System} {path : Path} {listing : Listing}
    (read : system.entriesAt path = .ok listing) : listing.volume ≤ system.root.volume := by
  unfold entriesAt at read
  obtain ⟨node, found, read⟩ := bind_eq_ok.mp read
  split at read
  · cases read
    exact volume_nodeAt_le found
  · cases read

end System
end ProjectGauge.Files

namespace ProjectGauge

open Files

/-! ## Files that a scan visits -/

theorem SourceFile.length_text_le (file : SourceFile) : file.text.length ≤ file.content.size := by
  calc file.text.length
      ≤ (Text.Utf8.decodeLossy file.content.allBytes).length := Text.length_unifyNewlines_le _
    _ ≤ file.content.allBytes.length := Text.Utf8.length_decodeLossy_le _
    _ = file.content.size := file.content.length_allBytes

/-- At an entry a scan comes across no more than what is found there and behind it. -/
theorem sum_sizes_atEntry_le (base : Path) (above : List Name) (name : Name)
    (here behind : List Finding) :
    (((atEntry base above name here behind).filterMap Finding.file?).map
        fun file => file.content.size).sum ≤
      ((here.filterMap Finding.file?).map fun file => file.content.size).sum +
        ((behind.filterMap Finding.file?).map fun file => file.content.size).sum := by
  unfold atEntry
  dsimp only
  split
  · exact Nat.le_add_left _ _
  · split
    · exact Nat.zero_le _
    · refine Nat.le_of_eq ?_
      rw [List.filterMap_append, List.map_append, List.sum_append_nat]

theorem sum_sizes_visited_le (excluded : List Name) (base : Path) (above : List Name)
    (listing : Listing) :
    ((visited excluded base above listing).map fun file => file.content.size).sum ≤
      listing.volume := by
  unfold visited
  induction listing generalizing above with
  | nil => exact Nat.le_refl 0
  | file name content rest inductionHypothesis =>
    have others := inductionHypothesis above
    refine Nat.le_trans (sum_sizes_atEntry_le base above name _ _) ?_
    exact Nat.add_le_add (Nat.le_refl content.size) others
  | link name target rest inductionHypothesis =>
    have others := inductionHypothesis above
    refine Nat.le_trans (sum_sizes_atEntry_le base above name _ _) ?_
    simpa [Listing.volume] using others
  | directory name children rest below inductionHypothesis =>
    have inside := below (above ++ [name])
    have others := inductionHypothesis above
    refine Nat.le_trans (sum_sizes_atEntry_le base above name _ _) (Nat.add_le_add ?_ others)
    split
    · -- The directory is excluded: its files count in the volume, but are not visited.
      exact Nat.zero_le _
    · exact inside

theorem sum_map_filter_le (weight : α → Nat) (keep : α → Bool) (items : List α) :
    ((items.filter keep).map weight).sum ≤ (items.map weight).sum := by
  induction items with
  | nil => exact Nat.le_refl 0
  | cons item rest inductionHypothesis =>
    rw [List.filter_cons, List.map_cons, List.sum_cons]
    split
    · rw [List.map_cons, List.sum_cons]
      omega
    · omega

theorem sum_map_le_sum_map {first second : α → Nat} (items : List α)
    (below : ∀ item, first item ≤ second item) : (items.map first).sum ≤ (items.map second).sum := by
  induction items with
  | nil => exact Nat.le_refl 0
  | cons item rest inductionHypothesis =>
    have here := below item
    rw [List.map_cons, List.map_cons, List.sum_cons, List.sum_cons]
    omega

namespace Project

theorem volume_listing_le {system : System} {path base : Path} {entries : Listing}
    (listed : listing system path = .ok (base, entries)) : entries.volume ≤ system.root.volume := by
  unfold listing at listed
  obtain ⟨resolved, -, listed⟩ := bind_eq_ok.mp listed
  obtain ⟨isThere, -, listed⟩ := bind_eq_ok.mp listed
  split at listed
  · cases listed
  · obtain ⟨isDirectory, -, listed⟩ := bind_eq_ok.mp listed
    split at listed
    · cases listed
    · obtain ⟨found, read, listed⟩ := bind_eq_ok.mp listed
      cases listed
      exact System.volume_entriesAt_le (mapError_eq_ok.mp read)

/-- The source texts of a project have no more characters than the files of the tree have bytes. -/
theorem length_texts_le {system : System} {path : Path} {files : Noted (List SourceFile)}
    (scanned : sources system path = .ok files) :
    (files.value.map fun file => file.text.length).sum ≤ system.root.volume := by
  unfold sources at scanned
  obtain ⟨found, inOrder, noted⟩ := bind_eq_ok.mp scanned
  cases noted
  unfold scan at inOrder
  obtain ⟨⟨base, entries⟩, listed, chosen⟩ := bind_eq_ok.mp inOrder
  cases chosen
  -- Sorting keeps the sum, choosing by suffix and decoding lower it.
  let visitedFiles := visited ScanRule.standard.excluded base [] entries
  let kept := visitedFiles.filter fun file => ScanRule.standard.suffixes.contains file.suffix
  calc ((sortFiles kept).map fun file => file.text.length).sum
      = (kept.map fun file => file.text.length).sum :=
        ((List.mergeSort_perm kept _).map _).sum_nat
    _ ≤ (kept.map fun file => file.content.size).sum :=
        sum_map_le_sum_map kept SourceFile.length_text_le
    _ ≤ (visitedFiles.map fun file => file.content.size).sum := sum_map_filter_le _ _ visitedFiles
    _ ≤ entries.volume := sum_sizes_visited_le _ _ _ entries
    _ ≤ system.root.volume := volume_listing_le listed

end Project
end ProjectGauge
