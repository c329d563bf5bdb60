import ProjectGauge.Project.Imports
import ProjectGauge.Proofs.Json.Members
import ProjectGauge.Proofs.Project.Counts

/-!
# The import map of a project

The import map of some sources is what one gets from the empty map by adding their imports one after the
other.  Each addition changes the count, the files and the mark of its package together.

* `ImportMap.Gathers` is what holds of a map after some additions, and `ImportMap.Gathers.add` one more.
* `Project.importsOf_eq` gives the additions of some sources.
* `Project.IsImportMap` says what the import map of some sources is.
* `Project.imports_eq`: the import map of a project is that of its sources.
-/

namespace ProjectGauge

open Files

/-! ## Additions -/

namespace ImportMap

/-- An import of a package by the file at a path. -/
abbrev Addition := String × String

def enter (map : ImportMap) (addition : Addition) : ImportMap :=
  map.add addition.2 addition.1

/-- The paths of the files in which a package is imported, one for each import. -/
def filesOf (package : String) (additions : List Addition) : List String :=
  (additions.filter fun addition => addition.1 = package).map Prod.snd

theorem filesOf_append (package : String) (first second : List Addition) :
    filesOf package (first ++ second) = filesOf package first ++ filesOf package second := by
  simp [filesOf]

theorem filesOf_single (package other file : String) :
    filesOf package [(other, file)] = if other = package then [file] else [] := by
  by_cases same : other = package <;> simp [filesOf, same]

/-- A package that an addition names is imported in a file. -/
theorem filesOf_ne_nil {package : String} {additions : List Addition}
    (member : package ∈ additions.map Prod.fst) : filesOf package additions ≠ [] := by
  obtain ⟨addition, isThere, rfl⟩ := List.mem_map.mp member
  have inFiles : addition.2 ∈ filesOf addition.1 additions :=
    List.mem_map_of_mem (List.mem_filter.mpr ⟨isThere, by simp⟩)
  exact List.ne_nil_of_mem inFiles

/-- What is known of a package that is imported in some files. -/
def usageIn (files : List String) : ImportUsage :=
  ⟨files.length, files, files.any entryPoints.contains⟩

theorem usageIn_add (files : List String) (file : String) :
    (usageIn files).add file = usageIn (files ++ [file]) := by
  simp [usageIn, ImportUsage.add]

/-- A map that holds some additions: the packages in the order in which they were first imported, each with
the files of its imports. -/
structure Gathers (additions : List Addition) (map : ImportMap) : Prop where
  packages : map.map Prod.fst = (additions.map Prod.fst).eraseDups
  usages : ∀ package, map.usage package = usageIn (filesOf package additions)

/-- A further import is entered under its package, and nothing else changes. -/
theorem Gathers.add {additions : List Addition} {map : ImportMap} (gathers : Gathers additions map)
    (package file : String) : Gathers (additions ++ [(package, file)]) (map.add file package) where
  packages := by
    rw [ImportMap.add, Json.names_put, gathers.packages, List.map_append, List.map_singleton,
      Json.eraseDups_concat]
  usages other := by
    rw [usage, ImportMap.add, Json.lookup_put, filesOf_append, filesOf_single]
    split
    · rename_i same
      subst same
      rw [Option.getD_some, gathers.usages, usageIn_add]
    · rw [List.append_nil]
      exact gathers.usages other

theorem gathers_foldl (additions : List Addition) : Gathers additions (additions.foldl enter []) := by
  induction additions using List.reverseRecOn with
  | nil => exact ⟨rfl, fun _ => rfl⟩
  | append_singleton additions addition inductionHypothesis =>
    rw [List.foldl_append]
    exact inductionHypothesis.add addition.1 addition.2

theorem score_foldl (additions : List Addition) :
    score (additions.foldl enter []) = additions.length := by
  induction additions using List.reverseRecOn with
  | nil => rfl
  | append_singleton additions addition inductionHypothesis =>
    rw [List.foldl_append, List.length_append]
    exact (score_add _ _ _).trans (congrArg (· + 1) inductionHypothesis)

theorem Gathers.usage_of_mem {additions : List Addition} {map : ImportMap} (gathers : Gathers additions map)
    {entry : String × ImportUsage} (member : entry ∈ map) :
    entry.2 = usageIn (filesOf entry.1 additions) := by
  have distinct : (map.map Prod.fst).Nodup := gathers.packages ▸ Json.nodup_eraseDups _
  rw [← gathers.usages, usage, Json.lookup_of_mem distinct member, Option.getD_some]

end ImportMap

/-! ## The additions of some sources -/

namespace Project

open ImportMap (Addition filesOf)

/-- The specifiers that a source imports and that name packages; none if its declarations cannot be read. -/
def packagesOf (file : SourceFile) : List (List Char) :=
  match Imports.specifiers (String.ofList file.suffix) file.text with
  | .ok specifiers => specifiers.filter isPackage
  | .error _ => []

theorem mem_packagesOf {file : SourceFile} {package : List Char} :
    package ∈ packagesOf file ↔
      ∃ specifiers, Imports.specifiers (String.ofList file.suffix) file.text = .ok specifiers ∧
        package ∈ specifiers ∧ package.head? ≠ some '.' := by
  unfold packagesOf
  split <;> rename_i result read <;> simp [read, isPackage]

/-- The imports of a source, with its path. -/
def additionsOf (file : SourceFile) : List Addition :=
  (packagesOf file).map fun package => (String.ofList package, String.ofList file.path)

theorem filesOf_additionsOf (package : String) (file : SourceFile) :
    filesOf package (additionsOf file) =
      List.replicate ((packagesOf file).count package.toList) (String.ofList file.path) := by
  have same (specifier : List Char) : String.ofList specifier = package ↔ specifier = package.toList := by
    rw [← String.toList_inj, String.toList_ofList]
  unfold additionsOf
  induction packagesOf file with
  | nil => rfl
  | cons specifier rest inductionHypothesis =>
    rw [List.map_cons, ← List.singleton_append, ImportMap.filesOf_append, ImportMap.filesOf_single,
      inductionHypothesis, List.count_cons]
    by_cases isPackage : specifier = package.toList
    · simp [isPackage, List.replicate_succ]
    · simp [same, isPackage]

/-- A source adds its imports, or nothing if its declarations cannot be read. -/
theorem value_addImports (known : Noted ImportMap) (file : SourceFile) :
    (addImports known file).value = (additionsOf file).foldl ImportMap.enter known.value := by
  unfold addImports additionsOf packagesOf
  cases Imports.specifiers (String.ofList file.suffix) file.text with
  | error e => rfl
  | ok specifiers =>
    dsimp only
    rw [ImportMap.addAll, List.foldl_map, List.foldl_map]
    rfl

theorem importsOf_eq (files : Noted (List SourceFile)) :
    (importsOf files).value = (files.value.flatMap additionsOf).foldl ImportMap.enter [] := by
  -- The map that the additions start from grows from source to source, so it is general.
  have all : ∀ (sources : List SourceFile) (known : Noted ImportMap),
      (sources.foldl addImports known).value =
        (sources.flatMap additionsOf).foldl ImportMap.enter known.value := by
    intro sources
    induction sources with
    | nil => exact fun known => rfl
    | cons file rest inductionHypothesis =>
      intro known
      rw [List.foldl_cons, inductionHypothesis, value_addImports, List.flatMap_cons, List.foldl_append]
  exact all files.value _

/-- The declarations of a source can be read. -/
def isReadable (file : SourceFile) : Bool :=
  (Imports.specifiers (String.ofList file.suffix) file.text).isOk

/-- Sources whose declarations cannot be read make no difference to the map. -/
theorem importsOf_readable (files : Noted (List SourceFile)) :
    (importsOf ⟨files.value.filter isReadable, files.notes⟩).value = (importsOf files).value := by
  have nothing (file : SourceFile) (unreadable : isReadable file = false) : additionsOf file = [] := by
    unfold isReadable at unreadable
    unfold additionsOf packagesOf
    cases read : Imports.specifiers (String.ofList file.suffix) file.text with
    | error e => rfl
    | ok specifiers =>
      rw [read] at unreadable
      cases unreadable
  rw [importsOf_eq, importsOf_eq]
  congr 1
  dsimp only
  induction files.value with
  | nil => rfl
  | cons file rest inductionHypothesis =>
    cases readable : isReadable file with
    | true => rw [List.filter_cons_of_pos readable, List.flatMap_cons, List.flatMap_cons, inductionHypothesis]
    | false =>
      rw [List.filter_cons_of_neg (by simp [readable]), List.flatMap_cons, nothing file readable,
        inductionHypothesis]
      rfl

/-! ## The import map -/

/-- The import map of some sources: which packages it has, and what it says of each of them. -/
structure IsImportMap (sources : List SourceFile) (map : ImportMap) : Prop where
  packages : ∀ package, package ∈ map.map Prod.fst ↔
    ∃ file ∈ sources, ∃ specifiers,
      Imports.specifiers (String.ofList file.suffix) file.text = .ok specifiers ∧
        package.toList ∈ specifiers ∧ package.toList.head? ≠ some '.'
  distinct : (map.map Prod.fst).Nodup
  files : ∀ entry ∈ map, entry.2.files = sources.flatMap fun file =>
    List.replicate ((packagesOf file).count entry.1.toList) (String.ofList file.path)
  counted : ∀ entry ∈ map, entry.2.count = entry.2.files.length ∧ 1 ≤ entry.2.count
  marked : ∀ entry ∈ map, entry.2.inEntryPoint = true ↔
    ∃ top ∈ ["index.js", "main.js", "server.js", "app.js"], top ∈ entry.2.files
  scored : map.score = ((sources.map fun file => (packagesOf file).length).sum : Nat)
  signals : List.Forall₂ (fun entry (signal : ImportEntry) => signal.package = entry.1 ∧
    signal.usageCount = entry.2.count ∧ signal.inEntryPoint = entry.2.inEntryPoint) map map.entries

theorem importsOf_isImportMap (files : Noted (List SourceFile)) :
    IsImportMap files.value (importsOf files).value := by
  have gathers := ImportMap.gathers_foldl (files.value.flatMap additionsOf)
  rw [← importsOf_eq] at gathers
  have known (package : String) : package ∈ (importsOf files).value.map Prod.fst ↔
      package ∈ (files.value.flatMap additionsOf).map Prod.fst := by
    rw [gathers.packages, List.mem_eraseDups]
  exact {
    packages := by
      intro package
      simp only [known, List.map_flatMap, List.mem_flatMap, additionsOf, List.map_map, List.mem_map,
        Function.comp_apply]
      refine exists_congr fun file => and_congr_right fun _ => ?_
      rw [← mem_packagesOf]
      constructor
      · rintro ⟨specifier, isThere, rfl⟩
        rwa [String.toList_ofList]
      · exact fun isThere => ⟨_, isThere, String.ofList_toList⟩
    distinct := gathers.packages ▸ Json.nodup_eraseDups _
    files := by
      intro entry member
      rw [gathers.usage_of_mem member, ImportMap.usageIn]
      simp only [← filesOf_additionsOf]
      simp [filesOf, List.filter_flatMap, List.map_flatMap]
    counted := by
      intro entry member
      have some := ImportMap.filesOf_ne_nil ((known entry.1).mp (List.mem_map_of_mem member))
      rw [gathers.usage_of_mem member, ImportMap.usageIn]
      have positive := List.length_pos_iff.mpr some
      exact ⟨rfl, by dsimp only; omega⟩
    marked := by
      intro entry member
      rw [gathers.usage_of_mem member, ImportMap.usageIn, List.any_eq_true]
      simp only [List.contains_iff_mem, entryPoints]
      exact exists_congr fun file => and_comm
    scored := by
      rw [importsOf_eq, ImportMap.score_foldl, List.length_flatMap]
      simp only [additionsOf, List.length_map]
    signals := by
      rw [ImportMap.entries, List.forall₂_map_right_iff, List.forall₂_same]
      exact fun entry _ => ⟨rfl, rfl, rfl⟩ }

/-- A project has an import map if and only if its sources can be scanned.  The map accounts for each import
in these sources, and sources that cannot be read make no difference to it. -/
theorem imports_eq (system : System) (project : Path) :
    (∃ e, sources system project = .error e ∧ imports system project = .error ⟨e⟩) ∨
      ∃ files found, sources system project = .ok files ∧ imports system project = .ok found ∧
        IsImportMap files.value found.value ∧
        (importsOf ⟨files.value.filter isReadable, files.notes⟩).value = found.value := by
  unfold imports
  cases scanned : sources system project with
  | error e => exact .inl ⟨e, rfl, rfl⟩
  | ok files =>
    exact .inr ⟨files, importsOf files, rfl, rfl, importsOf_isImportMap files, importsOf_readable files⟩

end Project
end ProjectGauge
