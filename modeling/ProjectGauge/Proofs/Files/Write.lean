import ProjectGauge.Proofs.Files.Walk
import Mathlib.Data.List.Induction

/-!
# Writing to a tree

A file is written where there is a file already, or as a new entry of a directory; directories that are
missing on the way are made one below the other.  In each case the tree only gains entries, and the path
leads to what has been written.

* `Leads` is the place of an existing entry; `nodeAt_iff` looks the entry up there.
* `makeDirectories_known` and `makeDirectoryBelow_new` make directories.
* `write_known` and `write_new` write a file.
-/

namespace ProjectGauge.Files

/-! ## Paths -/

/-- A walk accepts the text of a path. -/
structure Path.Fits (path : Path) : Prop where
  noNull : path.text.contains '\x00' = false
  short : Text.Utf8.byteLength path.text < pathLimit

theorem Path.below_nil (path : Path) : path.below [] = path := by
  simp [Path.below]

theorem Path.below_below (path : Path) (front back : List Name) :
    (path.below front).below back = path.below (front ++ back) := by
  simp [Path.below]

theorem Path.parentPath_below (path : Path) (names : List Name) (last : Name) :
    (path.below (names ++ [last])).parentPath = path.below names := by
  unfold Path.parentPath Path.below
  rw [← List.append_assoc, List.dropLast_concat]

theorem byteLength_append (front back : List Char) :
    Text.Utf8.byteLength (front ++ back) = Text.Utf8.byteLength front + Text.Utf8.byteLength back := by
  -- The sum is taken from the left, so what it starts with has to be general.
  have shifted : ∀ (text : List Char) (start : Nat),
      text.foldl (fun length c => length + c.utf8Size) start =
        start + text.foldl (fun length c => length + c.utf8Size) 0 := by
    intro text
    induction text with
    | nil => intro start; rfl
    | cons c rest inductionHypothesis =>
      intro start
      rw [List.foldl_cons, List.foldl_cons, inductionHypothesis, inductionHypothesis (0 + c.utf8Size)]
      omega
  unfold Text.Utf8.byteLength
  rw [List.foldl_append, shifted back]

theorem joined_cons_cons (first second : Name) (rest : List Name) :
    joined ['/'] (first :: second :: rest) = first ++ ['/'] ++ joined ['/'] (second :: rest) :=
  rfl

theorem joined_append_singleton (names : List Name) (last : Name) :
    ∃ back, joined ['/'] (names ++ [last]) = joined ['/'] names ++ back := by
  induction names with
  | nil => exact ⟨last, rfl⟩
  | cons name rest inductionHypothesis =>
    obtain ⟨back, split⟩ := inductionHypothesis
    cases rest with
    | nil => exact ⟨'/' :: last, by simp [joined]⟩
    | cons next rest =>
      refine ⟨back, ?_⟩
      rw [List.cons_append] at split
      rw [List.cons_append, List.cons_append, joined_cons_cons, split, joined_cons_cons]
      simp only [List.append_assoc]

/-- The text of the directory of a path is a point, or the front of the text of the path. -/
theorem Path.text_parentPath (path : Path) :
    path.parentPath.text = self ∨ ∃ back, path.text = path.parentPath.text ++ back := by
  obtain ⟨anchor, names⟩ := path
  rcases List.eq_nil_or_concat names with rfl | ⟨front, last, rfl⟩
  · exact .inr ⟨[], by simp [Path.parentPath]⟩
  · obtain ⟨back, split⟩ := joined_append_singleton front last
    have parentIs : (Path.mk anchor (front.concat last)).parentPath = ⟨anchor, front⟩ := by
      simp [Path.parentPath]
    have whole : (Path.mk anchor (front.concat last)).text =
        anchor.text ++ joined ['/'] (front ++ [last]) := by
      unfold Path.text
      split
      · rename_i isEmpty
        simp at isEmpty
      · rw [List.concat_eq_append]
    rw [parentIs, whole, split]
    unfold Path.text
    split
    · exact .inl rfl
    · exact .inr ⟨back, by simp⟩

theorem Path.Fits.parentPath {path : Path} (fits : path.Fits) : path.parentPath.Fits := by
  rcases path.text_parentPath with isSelf | ⟨back, split⟩
  · constructor
    · rw [isSelf]
      decide
    · rw [isSelf]
      decide
  · obtain ⟨noNull, short⟩ := fits
    rw [split] at noNull short
    rw [byteLength_append] at short
    constructor
    · simp only [List.contains_eq_mem, List.mem_append, decide_eq_false_iff_not, not_or] at noNull ⊢
      exact noNull.1
    · omega

namespace System

variable {system : System} {ending : Ending} {path : Path} {place : List Name} {name : Name}

/-! ## Where a path leads -/

theorem walk_eq (system : System) (ending : Ending) (fits : path.Fits) :
    system.walk ending path =
      (system.walkFrom ending linkLimit (system.startOf path) path.names).mapError
        fun cause => .refused cause path.text := by
  unfold walk
  dsimp only
  rw [if_neg (by rw [fits.noNull]; decide), if_neg (Nat.not_le.mpr fits.short)]

theorem fits_of_walk (walked : system.walk ending path = .ok place) : path.Fits := by
  unfold walk at walked
  dsimp only at walked
  split at walked
  · cases walked
  split at walked
  · cases walked
  · rename_i noNull short
    exact ⟨by simpa using noNull, Nat.lt_of_not_le short⟩

/-- A path leads to the place of an existing entry. -/
structure Leads (system : System) (path : Path) (place : List Name) : Prop where
  fits : path.Fits
  way : system.Way linkLimit (system.startOf path) path.names place

theorem walk_existing_iff : system.walk .existing path = .ok place ↔ system.Leads path place := by
  constructor
  · intro walked
    have fits := fits_of_walk walked
    rw [walk_eq system .existing fits, mapError_eq_ok] at walked
    exact ⟨fits, walkFrom_existing_iff.mp walked⟩
  · rintro ⟨fits, way⟩
    rw [walk_eq system .existing fits, mapError_eq_ok]
    exact walkFrom_existing_iff.mpr way

theorem nodeAt_iff {node : Node} :
    system.nodeAt path = .ok node ↔ ∃ place, system.Leads path place ∧ system.at? place = some node := by
  unfold nodeAt
  rw [bind_eq_ok]
  constructor
  · rintro ⟨place, walked, found⟩
    refine ⟨place, walk_existing_iff.mp walked, ?_⟩
    split at found
    · rename_i other isThere
      cases found
      exact isThere
    · cases found
  · rintro ⟨place, leads, found⟩
    refine ⟨place, walk_existing_iff.mpr leads, ?_⟩
    rw [found]
    rfl

theorem bytesAt_of_nodeAt {content : Content} (found : system.nodeAt path = .ok (.file content)) :
    system.bytesAt path = .ok content.allBytes := by
  unfold bytesAt
  rw [found]
  rfl

namespace Leads

theorem walk (leads : system.Leads path place) (followsLink : ending.followsLink = true) :
    system.walk ending path = .ok place := by
  rw [walk_eq system ending leads.fits, leads.way.walkFrom_eq followsLink]
  rfl

theorem of_extends {other : System} (more : system.Extends other) (leads : system.Leads path place) :
    other.Leads path place := by
  have same : other.startOf path = system.startOf path := by
    unfold startOf
    rw [more.here]
  exact ⟨leads.fits, same ▸ leads.way.of_extends more⟩

theorem parentPath (leads : system.Leads path place) (named : path.names ≠ []) :
    ∃ directory, system.Leads path.parentPath directory ∧ system.HasDirectory directory := by
  have way := leads.way
  rw [← List.dropLast_concat_getLast named] at way
  obtain ⟨directory, front, isDirectory⟩ := way.above
  exact ⟨directory, ⟨leads.fits.parentPath, front⟩, isDirectory⟩

end Leads

/-! ## Directories -/

theorem isDirectory?_of_leads (leads : system.Leads path place) (isDirectory : system.HasDirectory place) :
    system.isDirectory? path = .ok true := by
  obtain ⟨children, found⟩ := isDirectory
  unfold isDirectory?
  rw [nodeAt_iff.mpr ⟨place, leads, found⟩]
  rfl

theorem settleDirectory_known (leads : system.Leads path place) (isDirectory : system.HasDirectory place)
    (e : Error) : system.settleDirectory path (.error e) = .ok system := by
  unfold settleDirectory
  dsimp only
  rw [isDirectory?_of_leads leads isDirectory]
  rfl

theorem create_known (leads : system.Leads path place) (there : (system.at? place).isSome) (node : Node) :
    system.create path node = .error (.refused .exists path.text) := by
  obtain ⟨reached, walked, isThere⟩ := leads.way.reaches .creatable there
  unfold create
  rw [walk_eq system .creatable leads.fits, walked, mapError_ok, ok_bind, if_pos isThere]
  rfl

theorem makeDirectoryBelow_known (leads : system.Leads path place)
    (isDirectory : system.HasDirectory place) (above : Nat) :
    system.makeDirectoryBelow above path = .ok system := by
  have there : (system.at? place).isSome := by
    obtain ⟨children, found⟩ := isDirectory
    rw [found]
    rfl
  have settled := settleDirectory_known leads isDirectory
  cases above with
  | zero =>
    unfold makeDirectoryBelow
    rw [create_known leads there]
    exact settled _
  | succ above =>
    unfold makeDirectoryBelow
    rw [create_known leads there]
    exact settled _

/-- Where a directory is, none is made. -/
theorem makeDirectories_known (leads : system.Leads path place)
    (isDirectory : system.HasDirectory place) : system.makeDirectories path = .ok system :=
  makeDirectoryBelow_known leads isDirectory _

/-! ## New entries -/

section New

variable {names : List Name}

/-- A walk ends in front of a missing entry, or with it where it may be a new one. -/
theorem walk_missing (leads : system.Leads path place) (isDirectory : system.HasDirectory place)
    (fits : (path.below (name :: names)).Fits) (proper : IsProper name)
    (missing : system.at? (place ++ [name]) = none) :
    system.walk ending (path.below (name :: names)) =
      if names.isEmpty && ending.mayBeNew then .ok (place ++ [name])
      else .error (.refused .notFound (path.below (name :: names)).text) := by
  have walked : system.walkFrom ending linkLimit (system.startOf path) (path.names ++ name :: names) = _ :=
    leads.way.append (List.cons_ne_nil _ _) fun _ => walkFrom_missing isDirectory proper missing
  rw [walk_eq system ending fits]
  refine (congrArg _ walked).trans ?_
  split <;> rfl

/-- A path goes on to an entry of the directory that it leads to. -/
theorem Leads.child {node : Node} (leads : system.Leads path place)
    (isDirectory : system.HasDirectory place) (fits : (path.below [name]).Fits) (proper : IsProper name)
    (found : system.at? (place ++ [name]) = some node) (notLink : node.target? = none) :
    system.Leads (path.below [name]) (place ++ [name]) := by
  refine ⟨fits, way_of_walkFrom ?_⟩
  exact leads.way.append (List.cons_ne_nil _ _) fun links =>
    (walkFrom_down isDirectory proper found notLink).trans walkFrom_arrived

/-- The tree only gains by a new entry, and the path leads to it. -/
theorem set_new (node : Node) (leads : system.Leads path place) (isDirectory : system.HasDirectory place)
    (fits : (path.below [name]).Fits) (proper : IsProper name)
    (missing : system.at? (place ++ [name]) = none) (notLink : node.target? = none) :
    system.Extends (system.set (place ++ [name]) node) ∧
      (system.set (place ++ [name]) node).Leads (path.below [name]) (place ++ [name]) ∧
      (system.set (place ++ [name]) node).at? (place ++ [name]) = some node := by
  have named : place ++ [name] ≠ [] := by simp
  have found := at?_set system node named
  have more : system.Extends (system.set (place ++ [name]) node) := by
    refine extends_set named ?_ fun there isThere => ?_
    · rw [List.dropLast_concat]
      exact isDirectory
    · rw [missing] at isThere
      cases isThere
  exact ⟨more, (leads.of_extends more).child (isDirectory.of_extends more) fits proper found notLink,
    found⟩

/-- A directory that is missing is made, and then it is empty. -/
theorem create_directory (leads : system.Leads path place) (isDirectory : system.HasDirectory place)
    (fits : (path.below [name]).Fits) (proper : IsProper name)
    (missing : system.at? (place ++ [name]) = none) :
    ∃ made, system.create (path.below [name]) (.directory .nil) = .ok made ∧ system.Extends made ∧
      made.Leads (path.below [name]) (place ++ [name]) ∧
      made.at? (place ++ [name]) = some (.directory .nil) := by
  refine ⟨system.set (place ++ [name]) (.directory .nil), ?_,
    set_new (.directory .nil) leads isDirectory fits proper missing rfl⟩
  unfold create
  rw [walk_missing leads isDirectory fits proper missing]
  change ((.ok (place ++ [name]) : Except Error (List Name)) >>= _) = _
  rw [ok_bind, missing]
  rfl

/-- Nothing is made below an entry that is missing. -/
theorem create_below_missing {others : List Name} (leads : system.Leads path place)
    (isDirectory : system.HasDirectory place) (some : others ≠ [])
    (fits : (path.below (name :: others)).Fits) (proper : IsProper name)
    (missing : system.at? (place ++ [name]) = none) (node : Node) :
    system.create (path.below (name :: others)) node =
      .error (.refused .notFound (path.below (name :: others)).text) := by
  unfold create
  rw [walk_missing leads isDirectory fits proper missing, if_neg (by simp [some])]
  rfl

/-- Below a directory that a path leads to, nothing has the first of some names. -/
structure IsVacant (system : System) (path : Path) (place names : List Name) : Prop where
  leads : system.Leads path place
  isDirectory : system.HasDirectory place
  missing : ∀ name ∈ names.head?, system.at? (place ++ [name]) = none
  proper : ∀ name ∈ names, IsProper name

/-- Missing directories are made one below the other, and the last of them is empty. -/
theorem makeDirectoryBelow_new (vacant : system.IsVacant path place names)
    (fits : (path.below names).Fits) (above : Nat) (enough : names.length ≤ above) :
    ∃ made, system.makeDirectoryBelow above (path.below names) = .ok made ∧ system.Extends made ∧
      made.Leads (path.below names) (place ++ names) ∧ (names = [] → made = system) ∧
      (names ≠ [] → made.at? (place ++ names) = some (.directory .nil)) := by
  obtain ⟨leads, isDirectory, missing, proper⟩ := vacant
  -- From the right, as the directories above are made first.
  induction names using List.reverseRecOn generalizing above with
  | nil =>
    rw [Path.below_nil, List.append_nil]
    exact ⟨system, makeDirectoryBelow_known leads isDirectory above, Extends.refl system, leads,
      fun _ => rfl, fun named => absurd rfl named⟩
  | append_singleton front last inductionHypothesis =>
    obtain ⟨above, rfl⟩ : ∃ fewer, above = fewer + 1 := ⟨above - 1, by simp at enough; omega⟩
    have lastProper : IsProper last := proper last (by simp)
    have frontFits : (path.below front).Fits := path.parentPath_below front last ▸ fits.parentPath
    have whole : (path.below front).below [last] = path.below (front ++ [last]) :=
      path.below_below front [last]
    have regrouped : place ++ front ++ [last] = place ++ (front ++ [last]) := List.append_assoc _ _ _
    cases front with
    | nil =>
      obtain ⟨made, created, more, reached, found⟩ :=
        create_directory leads isDirectory fits lastProper (missing last rfl)
      refine ⟨made, ?_, more, reached, fun empty => by simp at empty, fun _ => found⟩
      unfold makeDirectoryBelow
      rw [List.nil_append, created]
      rfl
    | cons first others =>
      -- The first attempt fails for want of the directory above, the second one finds it empty.
      obtain ⟨middle, madeFront, moreFront, reachedFront, -, found⟩ := inductionHypothesis frontFits
        above (by simp at enough ⊢; omega) (fun name isHead => missing name isHead)
        fun name inside => proper name (List.mem_append_left _ inside)
      have frontFound := found (List.cons_ne_nil _ _)
      have vacant : middle.at? (place ++ (first :: others) ++ [last]) = none :=
        Listing.at?_append [last] frontFound
      obtain ⟨made, created, more, reached, lastFound⟩ :=
        create_directory reachedFront ⟨_, frontFound⟩ (whole ▸ fits) lastProper vacant
      rw [whole] at created reached
      rw [regrouped] at reached lastFound
      have firstMissing := create_below_missing leads isDirectory
        (List.append_ne_nil_of_right_ne_nil others (List.cons_ne_nil last [])) fits (proper first (by simp)) (missing first rfl) (.directory .nil)
      rw [← List.cons_append] at firstMissing
      refine ⟨made, ?_, moreFront.trans more, reached, fun empty => by simp at empty,
        fun _ => lastFound⟩
      unfold makeDirectoryBelow
      rw [firstMissing]
      dsimp only
      rw [Path.parentPath_below, madeFront, ok_bind, created]
      rfl

theorem exists?_missing (leads : system.Leads path place) (isDirectory : system.HasDirectory place)
    (fits : (path.below [name]).Fits) (proper : IsProper name)
    (missing : system.at? (place ++ [name]) = none) :
    system.exists? (path.below [name]) = .ok false := by
  unfold exists? nodeAt
  rw [walk_missing leads isDirectory fits proper missing]
  rfl

/-- A file is written as a new entry of the directory that its path stands in. -/
theorem write_new (leads : system.Leads path place) (isDirectory : system.HasDirectory place)
    (fits : (path.below [name]).Fits) (proper : IsProper name)
    (missing : system.at? (place ++ [name]) = none) (content : Content) :
    ∃ after, system.write (path.below [name]) content = .ok after ∧ system.Extends after ∧
      after.nodeAt (path.below [name]) = .ok (.file content) := by
  obtain ⟨more, reached, found⟩ := set_new (.file content) leads isDirectory fits proper missing rfl
  refine ⟨system.set (place ++ [name]) (.file content), ?_, more,
    nodeAt_iff.mpr ⟨place ++ [name], reached, found⟩⟩
  unfold write
  rw [walk_missing leads isDirectory fits proper missing]
  change ((.ok (place ++ [name]) : Except Error (List Name)) >>= _) = _
  rw [ok_bind, missing]
  rfl

end New

/-! ## Files that are there -/

/-- A file is written in the place of the one before. -/
theorem write_known {old : Content} (found : system.nodeAt path = .ok (.file old)) (content : Content) :
    ∃ after, system.write path content = .ok after ∧ system.Extends after ∧
      after.nodeAt path = .ok (.file content) := by
  obtain ⟨place, leads, isThere⟩ := nodeAt_iff.mp found
  -- The root is a directory, and a file stands here.
  have named : place ≠ [] := by
    rintro rfl
    cases isThere
  have more : system.Extends (system.set place (.file content)) := by
    refine extends_set named (Listing.at?_dropLast named isThere) fun there same => ?_
    rw [isThere] at same
    cases same
    exact ⟨rfl, rfl, rfl⟩
  refine ⟨system.set place (.file content), ?_, more,
    nodeAt_iff.mpr ⟨place, leads.of_extends more, at?_set system _ named⟩⟩
  unfold write
  rw [leads.walk rfl, ok_bind, isThere]
  rfl

end System
end ProjectGauge.Files
