import ProjectGauge.Score.Package
import ProjectGauge.Proofs.Json.Field

/-!
# Signals in JSON values

The signals behind package scores come as two JSON values.  `IsUsages` and `IsImports` describe the values
that hold signals, and these are the values that are accepted, each with the signals that it holds, if there
is room to write out the packages.

* `readUsages_eq_ok` and `readImports_eq_ok` say so of the readers.
* `ofSource_eq`: beyond that the values do not matter to the scores.
* `ofValues_refuses`: other values are refused as inputs, if there is room for the items of the usages.
-/

namespace ProjectGauge.PackageScore

/-! ## What values hold -/

/-- A pair of a package, which any value may name, and a count. -/
inductive IsUsage : Json.Value → String × Int → Prop where
  | pair (package : Json.Value) (count : Int) :
      IsUsage (.array [package, .int count]) (package.plain, count)

inductive IsUsages : Json.Value → List (String × Int) → Prop where
  | list {items : List Json.Value} {usages : List (String × Int)}
      (each : List.Forall₂ IsUsage items usages) : IsUsages (.array items) usages

/-- There is room to write out the package of an item, if it has one. -/
def PackageFits (room : Nat) : Json.Value → Prop
  | .array [package, _] => package.plainHeight ≤ room
  | _ => True

/-- There is room to write out all packages of the usages. -/
def PackagesFit (room : Nat) : Json.Value → Prop
  | .array items => ∀ item ∈ items, PackageFits room item
  | _ => True

inductive IsEntry : Json.Value → ImportEntry → Prop where
  | object {members : List (String × Json.Value)} {entry : ImportEntry}
      (package : Json.lookup "package" members = some (.text entry.package))
      (usageCount : Json.FieldStandsFor Json.StandsForInteger members "usage_count" 0 entry.usageCount)
      (inEntryPoint : Json.FieldStandsFor Json.StandsForTruth members "is_in_entry_point" false
        entry.inEntryPoint) : IsEntry (.object members) entry

inductive IsImports : Json.Value → ImportSignals → Prop where
  | object {members : List (String × Json.Value)} {items : List Json.Value} {imports : ImportSignals}
      (direct : Json.lookup "direct_deps" members = some (.array (imports.direct.map .text)))
      (entries : Json.lookup "import_analysis" members = some (.array items))
      (each : List.Forall₂ IsEntry items imports.entries) : IsImports (.object members) imports

/-! ## What the readers accept -/

theorem readUsage_eq_ok {room : Nat} {item : Json.Value} {usage : String × Int} :
    readUsage room item = .ok usage ↔ PackageFits room item ∧ IsUsage item usage := by
  constructor
  · intro read
    unfold readUsage at read
    split at read
    · split at read
      · rename_i fits
        cases read
        exact ⟨fits, .pair _ _⟩
      · cases read
    · cases read
    · cases read
  · rintro ⟨fits, ⟨package, count⟩⟩
    exact if_pos fits

theorem readUsages_eq_ok {room : Nat} {value : Json.Value} {usages : List (String × Int)} :
    readUsages room value = .ok usages ↔ PackagesFit room value ∧ IsUsages value usages := by
  constructor
  · intro read
    unfold readUsages at read
    split at read
    · have each := (mapM_eq_ok_iff.mp read).imp fun _ _ => readUsage_eq_ok.mp
      obtain ⟨fit, areUsages⟩ := List.forall₂_and_left _ _ |>.mp each
      exact ⟨fit, .list areUsages⟩
    · cases read
  · rintro ⟨fit, ⟨areUsages⟩⟩
    have each := List.forall₂_and_left _ _ |>.mpr ⟨fit, areUsages⟩
    exact mapM_eq_ok_iff.mpr (each.imp fun _ _ => readUsage_eq_ok.mpr)

theorem readEntry_eq_ok {item : Json.Value} {entry : ImportEntry} :
    readEntry item = .ok entry ↔ IsEntry item entry := by
  have isInteger (value : Json.Value) (n : Int) :
      Json.scalar Json.Value.toInteger value = .ok n ↔ Json.StandsForInteger value n :=
    Json.scalar_eq_ok.trans Json.toInteger_eq_ok
  have isTruth (value : Json.Value) (b : Bool) :
      Json.scalar Json.Value.toTruth value = .ok b ↔ Json.StandsForTruth value b :=
    Json.scalar_eq_ok.trans Json.toTruth_eq_ok
  constructor
  · intro read
    unfold readEntry at read
    split at read
    · obtain ⟨fields, passed, rfl⟩ := Json.map_eq_ok.mp read
      obtain ⟨hasPackage, others⟩ := Json.both_eq_ok.mp passed
      obtain ⟨hasCount, hasFlag⟩ := Json.both_eq_ok.mp others
      obtain ⟨value, found, isText⟩ := Json.requiredField_eq_ok.mp hasPackage
      rw [Json.scalar_eq_ok, Json.toText_eq_ok] at isText
      exact .object (isText ▸ found) ((Json.optionalField_eq_ok isInteger).mp hasCount)
        ((Json.optionalField_eq_ok isTruth).mp hasFlag)
    · cases read
  · rintro ⟨package, usageCount, inEntryPoint⟩
    refine Json.map_eq_ok.mpr ⟨(entry.package, entry.usageCount, entry.inEntryPoint), ?_, rfl⟩
    refine Json.both_eq_ok.mpr ⟨?_, Json.both_eq_ok.mpr ⟨?_, ?_⟩⟩
    · exact Json.requiredField_eq_ok.mpr ⟨_, package, rfl⟩
    · exact (Json.optionalField_eq_ok isInteger).mpr usageCount
    · exact (Json.optionalField_eq_ok isTruth).mpr inEntryPoint

theorem requireList_eq_ok {members : List (String × Json.Value)} {field : String} :
    requireList members field = .ok () ↔ ∃ items, Json.lookup field members = some (.array items) := by
  unfold requireList
  split
  · rename_i items found
    simp [found]
  · rename_i other
    simpa using other

theorem forall₂_text {items : List Json.Value} {texts : List String} :
    List.Forall₂ (fun item text => Json.scalar Json.Value.toText item = .ok text) items texts ↔
      items = texts.map .text := by
  simp only [Json.scalar_eq_ok, Json.toText_eq_ok]
  rw [← List.forall₂_eq_eq_eq, List.forall₂_map_right_iff]

theorem listField_eq_ok {α : Type} {field : String} {check : Json.Value → Json.Checked α}
    {items : List Json.Value} {results : List α} :
    Json.under (.field field) (Json.listOf check (.array items)) = .ok results ↔
      List.Forall₂ (fun item result => check item = .ok result) items results := by
  rw [Json.under_eq_ok, Json.listOf_eq_ok]
  simp

theorem readImports_eq_ok {value : Json.Value} {imports : ImportSignals} :
    readImports value = .ok imports ↔ IsImports value imports := by
  constructor
  · intro read
    unfold readImports at read
    split at read
    · rename_i members
      obtain ⟨⟨⟩, hasDirect, read⟩ := bind_eq_ok.mp read
      obtain ⟨⟨⟩, hasEntries, read⟩ := bind_eq_ok.mp read
      obtain ⟨names, direct⟩ := requireList_eq_ok.mp hasDirect
      obtain ⟨items, entries⟩ := requireList_eq_ok.mp hasEntries
      obtain ⟨fields, passed, rfl⟩ := Json.map_eq_ok.mp (mapError_eq_ok.mp read)
      -- Both lists have been asked for before, so that neither field is absent here.
      rw [Json.both_eq_ok, Json.optionalField, direct, Json.optionalField, entries] at passed
      have areTexts := forall₂_text.mp (listField_eq_ok.mp passed.1)
      have areEntries := listField_eq_ok.mp passed.2
      exact .object (areTexts ▸ direct) entries (areEntries.imp fun _ _ => readEntry_eq_ok.mp)
    · cases read
  · rintro ⟨direct, entries, each⟩
    rename_i members items
    have passed : readSignals members = .ok imports := by
      refine Json.map_eq_ok.mpr ⟨(imports.direct, imports.entries), ?_, rfl⟩
      rw [Json.both_eq_ok, Json.optionalField, direct, Json.optionalField, entries]
      exact ⟨listField_eq_ok.mpr (forall₂_text.mpr rfl),
        listField_eq_ok.mpr (each.imp fun _ _ => readEntry_eq_ok.mpr)⟩
    rw [readImports, requireList_eq_ok.mpr ⟨_, direct⟩, ok_bind, requireList_eq_ok.mpr ⟨_, entries⟩,
      ok_bind, passed]
    rfl

/-! ## Scores of values -/

/-- Imports as they are handed to the ranking: as a value, or as signals that are known already. -/
inductive ImportSource where
  | value (imports : Json.Value)
  | signals (imports : ImportSignals)

inductive ImportSource.Holds : ImportSource → ImportSignals → Prop where
  | value {given : Json.Value} {imports : ImportSignals} (isImports : IsImports given imports) :
      Holds (.value given) imports
  | signals (imports : ImportSignals) : Holds (.signals imports) imports

def ofSource (room : Nat) (usages : Json.Value) :
    ImportSource → Except ScoringFailure (List PackageScore)
  | .value imports => ofValues room usages imports
  | .signals imports => ofUsages room usages imports

variable {room : Nat}

/-- The scores are those of the signals that the values hold. -/
theorem ofSource_eq {usages : Json.Value} {source : ImportSource} {pairs : List (String × Int)}
    {imports : ImportSignals} (fit : PackagesFit room usages) (isUsages : IsUsages usages pairs)
    (holds : source.Holds imports) :
    ofSource room usages source = (rank pairs imports).mapError .number := by
  have read := readUsages_eq_ok.mpr ⟨fit, isUsages⟩
  cases holds with
  | value isImports =>
    rw [ofSource, ofValues, read, readImports_eq_ok.mpr isImports]
    rfl
  | signals =>
    rw [ofSource, ofUsages, read]
    rfl

theorem exists_of_ofSource {usages : Json.Value} {source : ImportSource} {scores : List PackageScore}
    (scored : ofSource room usages source = .ok scores) :
    ∃ pairs imports, IsUsages usages pairs ∧ source.Holds imports ∧ rank pairs imports = .ok scores := by
  cases source with
  | value given =>
    obtain ⟨pairs, read, scored⟩ := bind_eq_ok.mp scored
    obtain ⟨imports, importsRead, ranked⟩ := bind_eq_ok.mp scored
    exact ⟨pairs, imports, (readUsages_eq_ok.mp read).2,
      .value (readImports_eq_ok.mp (mapError_eq_ok.mp importsRead)), mapError_eq_ok.mp ranked⟩
  | signals imports =>
    obtain ⟨pairs, read, ranked⟩ := bind_eq_ok.mp scored
    exact ⟨pairs, imports, (readUsages_eq_ok.mp read).2, .signals imports, mapError_eq_ok.mp ranked⟩

/-! ## Room for the usages -/

theorem height_le_of_mem {items : List Json.Value} {item : Json.Value} (member : item ∈ items) :
    item.height ≤ Json.heightOfItems items := by
  induction items with
  | nil => cases member
  | cons first rest inductionHypothesis =>
    rw [Json.heightOfItems]
    rcases List.mem_cons.mp member with rfl | later
    · exact Nat.le_max_left _ _
    · exact (inductionHypothesis later).trans (Nat.le_max_right _ _)

theorem plainHeight_le (value : Json.Value) : value.plainHeight ≤ value.height := by
  cases value with
  | text s => exact Nat.zero_le _
  | _ => exact Nat.le_refl _

/-- There is room for the package of an item if there is room for the item. -/
theorem packageFits_of_height {item : Json.Value} (roomy : item.height ≤ room) : PackageFits room item := by
  unfold PackageFits
  split
  · rename_i package count
    have inside := height_le_of_mem (List.mem_cons_self : package ∈ [package, count])
    rw [Json.Value.height] at roomy
    have plain := plainHeight_le package
    omega
  · trivial

/-- Where there is room for the items of the usages, nothing is left but what is wrong with them. -/
theorem readUsage_refuses {item : Json.Value} {failure : ScoringFailure} (roomy : item.height ≤ room)
    (fails : readUsage room item = .error failure) : ∃ error, failure = .input error := by
  unfold readUsage at fails
  split at fails
  · rename_i package count
    have fits : package.plainHeight ≤ room := packageFits_of_height roomy
    rw [if_pos fits] at fails
    cases fails
  · rename_i package count _
    cases fails
    have inside := height_le_of_mem (List.mem_cons_self : package ∈ [package, count])
    rw [Json.Value.height] at roomy
    exact ⟨_, if_pos (by omega)⟩
  · cases fails
    exact ⟨_, if_pos roomy⟩

theorem packagesFit_of_height {usages : Json.Value} (roomy : usages.height ≤ room + 1) :
    PackagesFit room usages := by
  unfold PackagesFit
  split
  · intro item member
    have inside := height_le_of_mem member
    rw [Json.Value.height] at roomy
    exact packageFits_of_height (by omega)
  · trivial

theorem readUsages_refuses {usages : Json.Value} {failure : ScoringFailure}
    (roomy : usages.height ≤ room + 1) (fails : readUsages room usages = .error failure) :
    ∃ error, failure = .input error := by
  unfold readUsages at fails
  split at fails
  · obtain ⟨item, member, itemFails⟩ := exists_of_mapM_eq_error fails
    have inside := height_le_of_mem member
    rw [Json.Value.height] at roomy
    exact readUsage_refuses (by omega) itemFails
  · cases fails
    exact ⟨_, rfl⟩

/-- Values that hold no signals are refused. -/
theorem ofValues_refuses {usages imports : Json.Value} (roomy : usages.height ≤ room + 1)
    (unreadable : ¬ ((∃ pairs, IsUsages usages pairs) ∧ ∃ signals, IsImports imports signals)) :
    ∃ error, ofValues room usages imports = .error (.input error) := by
  cases read : readUsages room usages with
  | error failure =>
    obtain ⟨error, rfl⟩ := readUsages_refuses roomy read
    exact ⟨error, by rw [ofValues, read]; rfl⟩
  | ok pairs =>
    cases importsRead : readImports imports with
    | error error => exact ⟨error, by rw [ofValues, read, importsRead]; rfl⟩
    | ok signals =>
      exact absurd ⟨⟨pairs, (readUsages_eq_ok.mp read).2⟩, signals, readImports_eq_ok.mp importsRead⟩
        unreadable

end ProjectGauge.PackageScore
