import ProjectGauge.Files.System

/-!
# What a change leaves

An entry that is set is found where it has been set, and every other entry of the tree stays what it is: a
directory, a link with its target, or a file.

* `Listing.at?_set` finds the new entry, `Listing.kept_at?_set` all others.
* `System.Extends` says that a tree has all entries of another one; `System.extends_set` that setting a new
  entry, or a file in the place of a file, extends the tree.
-/

namespace ProjectGauge.Files

/-- Two entries are directories, or links with the same target, or files. -/
def Node.SameKind (first second : Node) : Prop :=
  first.isDirectory = second.isDirectory ∧ first.target? = second.target?

theorem Node.SameKind.refl (node : Node) : node.SameKind node :=
  ⟨rfl, rfl⟩

theorem Node.SameKind.trans {first second third : Node} (before : first.SameKind second)
    (after : second.SameKind third) : first.SameKind third :=
  ⟨before.1.trans after.1, before.2.trans after.2⟩

/-! ## Listings -/

namespace Listing

theorem find?_cons (name other : Name) (node : Node) (rest : Listing) :
    (cons name node rest).find? other = if name = other then some node else rest.find? other := by
  cases node <;> rfl

theorem modify_cons (name here : Name) (node : Node) (change : Option Node → Node) (rest : Listing) :
    (cons here node rest).modify name (fun old => some (change old)) =
      if here = name then cons name (change (some node)) rest
      else cons here node (rest.modify name fun old => some (change old)) := by
  cases node <;> rfl

theorem find?_modify_cons {name other : Name} {change : Option Node → Node} {rest : Listing}
    (inRest : (rest.modify name fun old => some (change old)).find? other =
      if name = other then some (change (rest.find? name)) else rest.find? other)
    (here : Name) (node : Node) :
    ((cons here node rest).modify name fun old => some (change old)).find? other =
      if name = other then some (change ((cons here node rest).find? name))
      else (cons here node rest).find? other := by
  rw [modify_cons, find?_cons, find?_cons]
  by_cases same : here = name
  · subst same
    rw [if_pos rfl, if_pos rfl, find?_cons]
    split <;> rfl
  · rw [if_neg same, if_neg same, find?_cons, inRest]
    split
    · rename_i isOther
      subst isOther
      rw [if_neg (Ne.symm same)]
    · rfl

/-- A name is found changed, and every other name as before. -/
theorem find?_modify (name other : Name) (change : Option Node → Node) (listing : Listing) :
    (listing.modify name fun old => some (change old)).find? other =
      if name = other then some (change (listing.find? name)) else listing.find? other := by
  induction listing with
  | nil => exact find?_cons name other _ nil
  | file here content rest inductionHypothesis =>
    exact find?_modify_cons inductionHypothesis here (.file content)
  | link here target rest inductionHypothesis =>
    exact find?_modify_cons inductionHypothesis here (.link target)
  | directory here children rest _ inductionHypothesis =>
    exact find?_modify_cons inductionHypothesis here (.directory children)

theorem at?_cons_directory {listing children : Listing} {name : Name} (rest : List Name)
    (found : listing.find? name = some (.directory children)) :
    listing.at? (name :: rest) = children.at? rest := by
  rw [at?, found]

theorem at?_singleton (listing : Listing) (name : Name) : listing.at? [name] = listing.find? name := by
  rw [at?]
  split
  · rename_i children found
    rw [found]
    rfl
  · rfl

/-- Only a directory has entries below it. -/
theorem find?_of_at? {listing : Listing} {name next : Name} {rest : List Name} {node : Node}
    (found : listing.at? (name :: next :: rest) = some node) :
    ∃ children, listing.find? name = some (.directory children) ∧
      children.at? (next :: rest) = some node := by
  rw [at?] at found
  split at found
  · rename_i children isDirectory
    exact ⟨children, isDirectory, found⟩
  · cases found

theorem find?_of_at?_directory {listing directory : Listing} {name : Name} {rest : List Name}
    (found : listing.at? (name :: rest) = some (.directory directory)) :
    ∃ children, listing.find? name = some (.directory children) ∧
      children.at? rest = some (.directory directory) := by
  cases rest with
  | nil => exact ⟨directory, at?_singleton listing name ▸ found, rfl⟩
  | cons next rest => exact find?_of_at? found

theorem at?_append {listing children : Listing} {front : List Name} (back : List Name)
    (found : listing.at? front = some (.directory children)) :
    listing.at? (front ++ back) = children.at? back := by
  induction front generalizing listing with
  | nil =>
    cases found
    rfl
  | cons name rest inductionHypothesis =>
    obtain ⟨inside, isDirectory, found⟩ := find?_of_at?_directory found
    rw [List.cons_append, at?_cons_directory _ isDirectory]
    exact inductionHypothesis found

/-- An entry stands in a directory. -/
theorem at?_dropLast {listing : Listing} {place : List Name} {node : Node} (named : place ≠ [])
    (found : listing.at? place = some node) :
    ∃ children, listing.at? place.dropLast = some (.directory children) := by
  induction place generalizing listing with
  | nil => exact absurd rfl named
  | cons name rest inductionHypothesis =>
    cases rest with
    | nil => exact ⟨listing, rfl⟩
    | cons next rest =>
      obtain ⟨inside, isDirectory, found⟩ := find?_of_at? found
      rw [List.dropLast_cons_cons, at?_cons_directory _ isDirectory]
      exact inductionHypothesis (List.cons_ne_nil next rest) found

theorem set_cons (listing : Listing) (node : Node) (name next : Name) (rest : List Name) :
    listing.set node (name :: next :: rest) = listing.modify name fun old =>
      some (.directory ((childrenOf old).set node (next :: rest))) :=
  rfl

/-- An entry is found where it has been set. -/
theorem at?_set (listing : Listing) (node : Node) {place : List Name} (named : place ≠ []) :
    (listing.set node place).at? place = some node := by
  induction place generalizing listing with
  | nil => exact absurd rfl named
  | cons name rest inductionHypothesis =>
    cases rest with
    | nil =>
      rw [at?_singleton]
      exact (find?_modify name name (fun _ => node) listing).trans (if_pos rfl)
    | cons next rest =>
      have isDirectory := find?_modify name name
        (fun old => .directory ((childrenOf old).set node (next :: rest))) listing
      rw [if_pos rfl, ← set_cons] at isDirectory
      rw [at?_cons_directory _ isDirectory]
      exact inductionHypothesis _ (List.cons_ne_nil next rest)

theorem at?_cons_of_find? {listing changed : Listing} {name : Name}
    (same : changed.find? name = listing.find? name) (rest : List Name) :
    changed.at? (name :: rest) = listing.at? (name :: rest) := by
  rw [at?, at?, same]

/-- Where an entry of a directory is set that is new, or that is of the kind of the one before and has
nothing below it, all entries stay what they are. -/
theorem kept_at?_set {listing : Listing} {place other : List Name} {node old : Node} (named : place ≠ [])
    (inDirectory : ∃ children, listing.at? place.dropLast = some (.directory children))
    (fits : ∀ there, listing.at? place = some there → there.isDirectory = false ∧ there.SameKind node)
    (found : listing.at? other = some old) :
    ∃ new, (listing.set node place).at? other = some new ∧ old.SameKind new := by
  -- Both places are gone down together; they part at the first name that differs.
  induction place generalizing listing other with
  | nil => exact absurd rfl named
  | cons name rest inductionHypothesis =>
    cases other with
    | nil =>
      cases found
      exact ⟨_, rfl, rfl, rfl⟩
    | cons first more =>
      cases rest with
      | nil =>
        have setHere := find?_modify name first (fun _ => node) listing
        rw [at?_singleton] at fits
        by_cases same : name = first
        · subst same
          rw [if_pos rfl] at setHere
          cases more with
          | nil =>
            rw [at?_singleton] at found
            exact ⟨node, (at?_singleton _ name).trans setHere, (fits old found).2⟩
          | cons next more =>
            -- Below the new entry there was nothing: it does not take the place of a directory.
            obtain ⟨children, isDirectory, -⟩ := find?_of_at? found
            cases (fits _ isDirectory).1
        · rw [if_neg same] at setHere
          exact ⟨old, (at?_cons_of_find? setHere more).trans found, Node.SameKind.refl old⟩
      | cons next rest =>
        obtain ⟨directory, isThere⟩ := inDirectory
        rw [List.dropLast_cons_cons] at isThere
        obtain ⟨children, isDirectory, inside⟩ := find?_of_at?_directory isThere
        have setHere := find?_modify name first
          (fun old => .directory ((childrenOf old).set node (next :: rest))) listing
        rw [← set_cons, isDirectory] at setHere
        by_cases same : name = first
        · subst same
          rw [if_pos rfl] at setHere
          rw [at?_cons_directory _ setHere]
          rw [at?_cons_directory _ isDirectory] at fits found
          exact inductionHypothesis (List.cons_ne_nil next rest) ⟨directory, inside⟩ fits found
        · rw [if_neg same] at setHere
          exact ⟨old, (at?_cons_of_find? setHere more).trans found, Node.SameKind.refl old⟩

end Listing

/-! ## File systems -/

namespace System

/-- A file system has all entries of another one, each of its kind, and the same working directory. -/
structure Extends (before after : System) : Prop where
  here : after.here = before.here
  kept : ∀ place node, before.at? place = some node →
    ∃ new, after.at? place = some new ∧ node.SameKind new

theorem Extends.refl (system : System) : system.Extends system :=
  ⟨rfl, fun _ node found => ⟨node, found, Node.SameKind.refl node⟩⟩

theorem Extends.trans {first second third : System} (before : first.Extends second)
    (after : second.Extends third) : first.Extends third := by
  refine ⟨after.here.trans before.here, fun place node found => ?_⟩
  obtain ⟨middle, inMiddle, sameBefore⟩ := before.kept place node found
  obtain ⟨last, inLast, sameAfter⟩ := after.kept place middle inMiddle
  exact ⟨last, inLast, sameBefore.trans sameAfter⟩

/-- A directory stands at a place. -/
def HasDirectory (system : System) (place : List Name) : Prop :=
  ∃ children, system.at? place = some (.directory children)

theorem hasDirectory_iff {system : System} {place : List Name} :
    system.HasDirectory place ↔ (system.at? place).any Node.isDirectory = true := by
  constructor
  · rintro ⟨children, found⟩
    rw [found]
    rfl
  · intro isDirectory
    obtain ⟨node, found, isDirectory⟩ := (Option.any_eq_true _ _).mp isDirectory
    cases node with
    | directory children => exact ⟨children, found⟩
    | file content => cases isDirectory
    | link target => cases isDirectory

theorem HasDirectory.of_extends {before after : System} {place : List Name}
    (isDirectory : before.HasDirectory place) (more : before.Extends after) :
    after.HasDirectory place := by
  obtain ⟨children, found⟩ := isDirectory
  obtain ⟨new, isThere, same, -⟩ := more.kept place _ found
  rw [hasDirectory_iff, isThere]
  exact same.symm

theorem at?_set (system : System) (node : Node) {place : List Name} (named : place ≠ []) :
    (system.set place node).at? place = some node :=
  Listing.at?_set system.root node named

theorem extends_set {system : System} {place : List Name} {node : Node} (named : place ≠ [])
    (inDirectory : system.HasDirectory place.dropLast)
    (fits : ∀ there, system.at? place = some there → there.isDirectory = false ∧ there.SameKind node) :
    system.Extends (system.set place node) :=
  ⟨rfl, fun _ _ found => Listing.kept_at?_set named inDirectory fits found⟩

end System
end ProjectGauge.Files
