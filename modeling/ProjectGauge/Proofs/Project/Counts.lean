import ProjectGauge.Project.Survey
import ProjectGauge.Proofs.Files.Volume
import ProjectGauge.Proofs.Json.Members
import ProjectGauge.Proofs.Project.Manifest
import ProjectGauge.Proofs.Script.Run
import ProjectGauge.Proofs.Text.Pattern

/-!
# How large counts can get

References and imports are counted in the texts of the sources, so that no count exceeds the volume of
the file tree by more than a factor of two.  The packages of a project are listed without repetitions at
each stage: as declared, as used and as imported.

* `Project.dependencies_used` and `Project.imports_bounded` bound what a survey counts.
* `Project.nodup_names_declared` keeps the names of declared packages apart.
-/

namespace ProjectGauge

open Files

/-! ## References -/

theorem Usage.countReferences_le (package source : List Char) :
    countReferences package source ≤ 2 * source.length := by
  have required := Text.Pattern.length_findAll_le (requireCall package) source
  have fromClauses := Text.Pattern.length_findAll_le (fromClause package) source
  simp only [countReferences, requireReferences, fromReferences, List.length_map]
  omega

theorem Project.referenceCount_le (package : String) (texts : List (List Char)) :
    referenceCount package texts ≤ 2 * (texts.map List.length).sum := by
  unfold referenceCount
  rw [← List.sum_eq_foldl_nat]
  induction texts with
  | nil => exact Nat.le_refl 0
  | cons text rest inductionHypothesis =>
    have here := Usage.countReferences_le package.toList text
    simp only [List.map_cons, List.sum_cons]
    omega

/-! ## Imports of a text -/

/-- A text has no more import declarations than characters. -/
theorem Imports.length_specifiers_le {suffix : String} {source : List Char} {found : List (List Char)}
    (read : specifiers suffix source = .ok found) : found.length ≤ source.length := by
  have byForm : (specifiersByForm source).length ≤ source.length := by
    simpa [specifiersByForm] using Text.Pattern.length_findAll_le declaration source
  unfold specifiers at read
  split at read
  · cases read
    exact byForm
  · split at read
    · cases read
      exact byForm
    · exact Script.length_importSources_le read

/-! ## Import maps -/

namespace ImportMap

/-- What holds of every import map: each package has one entry, whose count is not negative. -/
structure Sound (map : ImportMap) : Prop where
  distinct : (map.map Prod.fst).Nodup
  counted : ∀ entry ∈ map, 0 ≤ entry.2.count

theorem Sound.nil : Sound [] :=
  ⟨List.nodup_nil, fun _ member => by cases member⟩

theorem score_nil : score [] = 0 := rfl

theorem score_cons (entry : String × ImportUsage) (rest : ImportMap) :
    score (entry :: rest) = entry.2.count + score rest := by
  unfold score
  rw [← List.sum_eq_foldl, ← List.sum_eq_foldl, List.map_cons, List.sum_cons]

theorem score_put (name : String) (usage : ImportUsage) (map : ImportMap) :
    score (Json.put name usage map) =
      score map - ((Json.lookup name map).getD .none).count + usage.count := by
  induction map with
  | nil =>
    simp only [Json.put, Json.lookup, score_cons, score_nil, Option.getD_none, ImportUsage.none]
    omega
  | cons entry rest inductionHypothesis =>
    obtain ⟨key, old⟩ := entry
    simp only [Json.put, Json.lookup]
    split
    · simp only [score_cons, Option.getD_some]
      omega
    · rw [score_cons, score_cons, inductionHypothesis]
      omega

/-- A further import is one more in the score. -/
theorem score_add (file : String) (map : ImportMap) (package : String) :
    score (map.add file package) = score map + 1 := by
  unfold add
  rw [score_put]
  simp only [usage, ImportUsage.add]
  omega

theorem Sound.usage_nonneg {map : ImportMap} (sound : map.Sound) (package : String) :
    0 ≤ (map.usage package).count := by
  unfold usage
  cases found : Json.lookup package map with
  | none => exact Int.le_refl 0
  | some known => exact sound.counted _ (Json.mem_of_lookup found)

theorem Sound.add {map : ImportMap} (sound : map.Sound) (file package : String) :
    (map.add file package).Sound := by
  refine ⟨Json.nodup_names_put _ _ sound.distinct, ?_⟩
  intro entry member
  rcases Json.mem_put member with new | old
  · have nonneg := sound.usage_nonneg package
    rw [new]
    simp only [ImportUsage.add]
    omega
  · exact sound.counted entry old

theorem score_nonneg {map : ImportMap} (counted : ∀ entry ∈ map, 0 ≤ entry.2.count) :
    0 ≤ map.score := by
  induction map with
  | nil => exact Int.le_refl 0
  | cons entry rest inductionHypothesis =>
    have here := counted entry List.mem_cons_self
    have others := inductionHypothesis fun other member =>
      counted other (List.mem_cons_of_mem _ member)
    rw [score_cons]
    omega

/-- No package is imported more often than all together. -/
theorem count_le_score {map : ImportMap} (counted : ∀ entry ∈ map, 0 ≤ entry.2.count)
    {entry : String × ImportUsage} (member : entry ∈ map) : entry.2.count ≤ map.score := by
  induction map with
  | nil => cases member
  | cons first rest inductionHypothesis =>
    have later : ∀ other ∈ rest, 0 ≤ other.2.count := fun other inRest =>
      counted other (List.mem_cons_of_mem _ inRest)
    rw [score_cons]
    rw [List.mem_cons] at member
    rcases member with same | inRest
    · have others := score_nonneg later
      rw [same]
      omega
    · have part := inductionHypothesis later inRest
      have here := counted first List.mem_cons_self
      omega

/-- Each import of a file counts once. -/
theorem addAll_spec {map : ImportMap} (sound : map.Sound) (file : String)
    (specifiers : List (List Char)) :
    (map.addAll file specifiers).Sound ∧
      (map.addAll file specifiers).score ≤ map.score + specifiers.length := by
  -- The map that the additions start from grows along the way, so it is general.
  have all : ∀ (packages : List String) (known : ImportMap), known.Sound →
      (packages.foldl (add file) known).Sound ∧
        (packages.foldl (add file) known).score = known.score + packages.length := by
    intro packages
    induction packages with
    | nil =>
      intro known soundKnown
      exact ⟨soundKnown, by simp⟩
    | cons package rest inductionHypothesis =>
      intro known soundKnown
      obtain ⟨soundAll, scored⟩ := inductionHypothesis _ (soundKnown.add file package)
      refine ⟨soundAll, ?_⟩
      rw [List.foldl_cons, scored, score_add, List.length_cons]
      omega
  obtain ⟨soundAll, scored⟩ := all ((specifiers.filter isPackage).map String.ofList) map sound
  -- Relative specifiers name no package and are passed over.
  have kept : (specifiers.filter isPackage).length ≤ specifiers.length := List.length_filter_le _ _
  refine ⟨soundAll, ?_⟩
  unfold addAll
  rw [scored, List.length_map]
  omega

end ImportMap

/-! ## Imports of a project -/

namespace Project

theorem addImports_spec {known : Noted ImportMap} (sound : known.value.Sound) (file : SourceFile) :
    (addImports known file).value.Sound ∧
      (addImports known file).value.score ≤ known.value.score + file.text.length := by
  unfold addImports
  dsimp only
  split
  · rename_i specifiers read
    obtain ⟨soundAll, scored⟩ :=
      ImportMap.addAll_spec sound (String.ofList file.path) specifiers
    have few := Imports.length_specifiers_le read
    exact ⟨soundAll, by dsimp only; omega⟩
  · exact ⟨sound, by dsimp only; omega⟩

/-- The imports of some files are not more than the characters of their texts. -/
theorem importsOf_spec (files : Noted (List SourceFile)) :
    (importsOf files).value.Sound ∧
      (importsOf files).value.score ≤ ((files.value.map fun file => file.text.length).sum : Nat) := by
  have all : ∀ (sources : List SourceFile) (known : Noted ImportMap), known.value.Sound →
      (sources.foldl addImports known).value.Sound ∧
        (sources.foldl addImports known).value.score ≤
          known.value.score + ((sources.map fun file => file.text.length).sum : Nat) := by
    intro sources
    induction sources with
    | nil =>
      intro known sound
      exact ⟨sound, by simp⟩
    | cons file rest inductionHypothesis =>
      intro known sound
      obtain ⟨soundOne, scoredOne⟩ := addImports_spec sound file
      obtain ⟨soundAll, scoredAll⟩ := inductionHypothesis _ soundOne
      refine ⟨soundAll, ?_⟩
      rw [List.map_cons, List.sum_cons, List.foldl_cons]
      omega
  have fromNothing := all files.value ⟨[], files.notes⟩ ImportMap.Sound.nil
  simpa [importsOf, ImportMap.score_nil] using fromNothing

/-- What a survey knows of imports has one entry for each package, and all counts together are at most the
volume of the tree. -/
theorem imports_bounded (system : System) (project : Path) :
    (importsOrNone system project).value.Sound ∧
      (importsOrNone system project).value.score ≤ system.root.volume := by
  unfold importsOrNone imports
  cases scanned : sources system project with
  | error error => exact ⟨ImportMap.Sound.nil, Int.natCast_nonneg _⟩
  | ok files =>
    obtain ⟨sound, scored⟩ := importsOf_spec files
    have texts := length_texts_le scanned
    exact ⟨sound, Int.le_trans scored (Int.ofNat_le.mpr texts)⟩

/-! ## Dependencies of a project -/

theorem nodup_names_declared {system : System} {project : Path} {declared : Manifest.Declared}
    (read : Manifest.declared system project = .ok declared) : (declared.map Prod.fst).Nodup :=
  (Manifest.declared_eq_ok_iff.mp read).distinct

theorem nodup_names_declaredOrNone (system : System) (directory : String) :
    ((declaredOrNone system directory).value.map Prod.fst).Nodup := by
  unfold declaredOrNone
  split
  · rename_i declared read
    exact nodup_names_declared read
  · exact List.nodup_nil

/-- What holds of the dependencies of a project: each package is listed once, and is referred to at least
once and at most as often as a bound allows. -/
structure Used (bound : Nat) (dependencies : List Dependency) : Prop where
  distinct : (dependencies.map Dependency.name).Nodup
  counted : ∀ dependency ∈ dependencies, 0 < dependency.count ∧ dependency.count ≤ bound

theorem Used.nil (bound : Nat) : Used bound [] :=
  ⟨List.nodup_nil, fun _ member => by cases member⟩

theorem rankUsed_used {declared : Manifest.Declared} {texts : List (List Char)} {volume : Nat}
    (distinct : (declared.map Prod.fst).Nodup) (bounded : (texts.map List.length).sum ≤ volume) :
    Used (2 * volume) (rankUsed (countDependencies declared texts)) := by
  have order := List.mergeSort_perm
    ((countDependencies declared texts).filter fun dependency => 0 < dependency.count)
    fun a b => b.count ≤ a.count
  refine ⟨?_, ?_⟩
  · have names : (countDependencies declared texts).map Dependency.name = declared.map Prod.fst := by
      simp [countDependencies]
    -- What is used is chosen from what is declared, and then put in order.
    have kept : ((rankUsed (countDependencies declared texts)).map Dependency.name).Perm
        (((countDependencies declared texts).filter fun dependency => 0 < dependency.count).map
          Dependency.name) := order.map _
    refine kept.nodup_iff.mpr ?_
    refine List.Nodup.sublist (List.filter_sublist.map _) ?_
    rw [names]
    exact distinct
  · intro dependency member
    have member := order.mem_iff.mp member
    rw [List.mem_filter, countDependencies, List.mem_map] at member
    obtain ⟨⟨package, -, same⟩, positive⟩ := member
    have few := referenceCount_le package.1 texts
    subst same
    refine ⟨by simpa using positive, ?_⟩
    dsimp only
    omega

/-- A project has each dependency once, and refers to it at most twice for each byte in the tree. -/
theorem dependencies_used (system : System) (project : Path) :
    Used (2 * system.root.volume) (dependencies system project).value := by
  unfold dependencies
  split
  · rename_i found known
    unfold dependencies? at known
    obtain ⟨declared, read, known⟩ := bind_eq_ok.mp known
    split at known
    · cases known
      exact Used.nil _
    · obtain ⟨files, scanned, known⟩ := bind_eq_ok.mp known
      cases known
      refine rankUsed_used (nodup_names_declared (mapError_eq_ok.mp read)) ?_
      rw [List.map_map]
      exact length_texts_le (mapError_eq_ok.mp scanned)
  · exact Used.nil _

end Project
end ProjectGauge
