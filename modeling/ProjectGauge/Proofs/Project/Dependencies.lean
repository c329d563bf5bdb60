import ProjectGauge.Proofs.Project.Counts
import ProjectGauge.Proofs.Sorting

/-!
# The dependencies of a project

The dependencies of a project are those of its declared packages that its sources refer to, the most used
first.  Packages that are used as often as each other keep the order of their declaration.

* `IsRanking` says what the dependencies are for some declared packages and some files.
* `isRanking_dependencies`: what a project declares is ranked by the references in its sources.
-/

namespace ProjectGauge.Project

open Files

/-- The number of references to a package in some files: the calls of `require` and the `from` clauses that
are found in each. -/
def references (files : List SourceFile) (package : String) : Nat :=
  (files.map fun file => (Usage.requireReferences package.toList file.text).length +
    (Usage.fromReferences package.toList file.text).length).sum

/-- The source files that a scan of a project finds. -/
def scannedFiles (system : System) (project : Path) : List SourceFile :=
  match sources system project with
  | .ok files => files.value
  | .error _ => []

/-- A ranking of those declared packages that some files refer to. -/
structure IsRanking (declared : Manifest.Declared) (files : List SourceFile)
    (dependencies : List Dependency) : Prop where
  names : ∀ package, package ∈ dependencies.map Dependency.name ↔
    package ∈ declared.map Prod.fst ∧ 0 < references files package
  distinct : (dependencies.map Dependency.name).Nodup
  counts : ∀ dependency ∈ dependencies, dependency.count = references files dependency.name
  versions : ∀ dependency ∈ dependencies, ∀ version, (dependency.name, .text version) ∈ declared →
    dependency.version.toList = version.toList.filter fun c => c ≠ '^' ∧ c ≠ '~'
  /-- A package stands before another one if it has more references, or as many and an earlier declaration. -/
  ordered : dependencies.Pairwise fun before behind => behind.count < before.count ∨
    behind.count = before.count ∧ [before.name, behind.name].Sublist (declared.map Prod.fst)

variable {declared : Manifest.Declared} {files : List SourceFile}

theorem referenceCount_texts (files : List SourceFile) (package : String) :
    referenceCount package (files.map SourceFile.text) = references files package := by
  unfold referenceCount references
  rw [← List.sum_eq_foldl_nat, List.map_map]
  rfl

/-- Without references nothing is ranked. -/
theorem IsRanking.nil (unused : ∀ package ∈ declared.map Prod.fst, references files package = 0) :
    IsRanking declared files [] where
  names package := by
    constructor
    · intro member
      cases member
    · rintro ⟨isDeclared, positive⟩
      rw [unused package isDeclared] at positive
      cases positive
  distinct := List.nodup_nil
  counts _ member := by cases member
  versions _ member := by cases member
  ordered := List.Pairwise.nil

/-! ## Ranking -/

theorem names_countDependencies (declared : Manifest.Declared) (texts : List (List Char)) :
    (countDependencies declared texts).map Dependency.name = declared.map Prod.fst := by
  simp [countDependencies]

/-- What is ranked is declared, and has references. -/
theorem mem_rankUsed {dependency : Dependency} :
    dependency ∈ rankUsed (countDependencies declared (files.map SourceFile.text)) ↔
      0 < references files dependency.name ∧ dependency.count = references files dependency.name ∧
        ∃ version, (dependency.name, version) ∈ declared ∧
          dependency.version = Dependency.displayVersion version := by
  rw [rankUsed, List.mem_mergeSort, List.mem_filter, countDependencies, List.mem_map]
  constructor
  · rintro ⟨⟨⟨package, version⟩, isDeclared, rfl⟩, positive⟩
    have positive := of_decide_eq_true positive
    dsimp only at positive ⊢
    rw [referenceCount_texts] at positive ⊢
    exact ⟨by omega, rfl, version, isDeclared, rfl⟩
  · obtain ⟨package, shown, count⟩ := dependency
    rintro ⟨positive, counted, version, isDeclared, isShown⟩
    dsimp only at positive counted isDeclared isShown
    refine ⟨⟨(package, version), isDeclared, ?_⟩, decide_eq_true (by dsimp only; omega)⟩
    dsimp only
    rw [referenceCount_texts, counted, isShown]

theorem isRanking_rankUsed (distinct : (declared.map Prod.fst).Nodup) :
    IsRanking declared files (rankUsed (countDependencies declared (files.map SourceFile.text))) where
  names package := by
    rw [List.mem_map, List.mem_map]
    constructor
    · rintro ⟨dependency, isRanked, rfl⟩
      obtain ⟨positive, -, version, isDeclared, -⟩ := mem_rankUsed.mp isRanked
      exact ⟨⟨_, isDeclared, rfl⟩, positive⟩
    · rintro ⟨⟨⟨package, version⟩, isDeclared, rfl⟩, positive⟩
      exact ⟨⟨package, Dependency.displayVersion version, references files package⟩,
        mem_rankUsed.mpr ⟨positive, rfl, version, isDeclared, rfl⟩, rfl⟩
  distinct := (rankUsed_used distinct (Nat.le_refl _)).distinct
  counts dependency isRanked := (mem_rankUsed.mp isRanked).2.1
  versions dependency isRanked version isText := by
    obtain ⟨-, -, known, isDeclared, isShown⟩ := mem_rankUsed.mp isRanked
    -- A declared package has one version.
    have same := (Json.lookup_of_mem distinct isDeclared).symm.trans (Json.lookup_of_mem distinct isText)
    obtain rfl := Option.some.inj same
    rw [isShown, Dependency.displayVersion, Dependency.dropRangeMarkers, String.toList_ofList]
    refine List.filter_congr fun c _ => ?_
    rw [Bool.decide_and, decide_not, decide_not]
    rfl
  ordered := by
    rw [List.pairwise_iff_forall_sublist]
    intro before behind stand
    have falls := List.pairwise_iff_forall_sublist.mp (pairwise_mergeSort_key Dependency.count _) stand
    rcases Int.lt_or_eq_of_le falls with fewer | same
    · exact .inl fewer
    · have stood := (pair_sublist_of_mergeSort Dependency.count stand same).trans List.filter_sublist
      have names := stood.map Dependency.name
      rw [names_countDependencies] at names
      exact .inr ⟨same, names⟩

/-! ## Dependencies of a project -/

/-- The dependencies of a project whose manifest is read rank the declared packages by the references in
the source files. -/
theorem isRanking_dependencies {system : System} {project : Path}
    (read : Manifest.declared system project = .ok declared) :
    Manifest.Declares system project declared ∧
      IsRanking declared (scannedFiles system project) (dependencies system project).value := by
  have declares := Manifest.declared_eq_ok_iff.mp read
  refine ⟨declares, ?_⟩
  unfold dependencies dependencies? scannedFiles
  rw [read, mapError_ok, ok_bind]
  cases declared with
  | nil => exact IsRanking.nil fun _ member => by cases member
  | cons entry others =>
    cases sources system project with
    | error e => exact IsRanking.nil fun _ _ => rfl
    | ok files => exact isRanking_rankUsed declares.distinct

/-- A project in `/p` whose manifest declares `a` twice, `b` in both sections and `c` for development. -/
def declaringTree : Listing :=
  .directory ['p']
    (.file "package.json".toList (.ofBytes (Text.Utf8.encode
        ("\x7b\x22dependencies\x22:\x7b\x22a\x22:\x22^1\x22,\x22b\x22:\x222\x22,\x22a\x22:\x22~3\x22\x7d," ++
          "\x22devDependencies\x22:" ++
          "\x7b\x22b\x22:\x22^~4\x22,\x22c\x22:5,\x22d\x22:\x226\x22\x7d\x7d").toList))
      (.file "f.js".toList (.ofBytes (Text.Utf8.encode "require('c/x') require('b')".toList))
        (.file "g.js".toList (.ofBytes (Text.Utf8.encode
            "import 'd'; import c from 'c'; require('a')".toList))
          .nil)))
    .nil

/-- The names that the sample declares stand in the order of their first declarations. -/
theorem declared_declaringTree :
    ∃ declared, Manifest.declared ⟨declaringTree, []⟩ (Path.parse "/p".toList) = .ok declared ∧
      declared.map Prod.fst = ["a", "b", "c", "d"] := by
  have names : (Manifest.declared ⟨declaringTree, []⟩ (Path.parse "/p".toList)).toOption.map
      (·.map Prod.fst) = some ["a", "b", "c", "d"] := by decide +kernel
  cases read : Manifest.declared ⟨declaringTree, []⟩ (Path.parse "/p".toList) with
  | error e =>
    rw [read] at names
    cases names
  | ok declared =>
    rw [read] at names
    exact ⟨declared, rfl, Option.some.inj names⟩

theorem isRanking_dependencies_sample :
    ∃ declared, Manifest.declared ⟨declaringTree, []⟩ (Path.parse "/p".toList) = .ok declared ∧
      declared.map Prod.fst = ["a", "b", "c", "d"] ∧
      Manifest.Declares ⟨declaringTree, []⟩ (Path.parse "/p".toList) declared ∧
      IsRanking declared (scannedFiles ⟨declaringTree, []⟩ (Path.parse "/p".toList))
        (dependencies ⟨declaringTree, []⟩ (Path.parse "/p".toList)).value := by
  obtain ⟨declared, read, names⟩ := declared_declaringTree
  obtain ⟨declares, isRanking⟩ := isRanking_dependencies read
  exact ⟨declared, read, names, declares, isRanking⟩

end ProjectGauge.Project
