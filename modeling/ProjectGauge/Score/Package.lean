import ProjectGauge.Json.Field
import ProjectGauge.Number.Measure

/-!
# Package scores

The score of a package adds up three signals: how often its declared dependency is referenced,
whether it is declared, and how often it is imported, with a bonus for imports from an entry point.
Points that are quotients are binary64 numbers and the others are whole ones; a sum is whole as long as all
of its points are, and is rounded half up at the end.

* `PackageScore.rank` gives one score for each package that any signal names, the highest first and
  equal ones in the order in which the packages were first named.
* `PackageScore.ofValues` reads the signals from JSON values and says what is wrong with them. The package
  of a pair may be any value, and what is refused is shown, so that there has to be room to write it out.
-/

namespace ProjectGauge

/-- The imports of one package. -/
structure ImportEntry where
  package : String
  usageCount : Int
  inEntryPoint : Bool
  deriving DecidableEq

/-- What the imports of a project say about its packages. -/
structure ImportSignals where
  direct : List String
  entries : List ImportEntry
  deriving DecidableEq

/-- The signals behind a score. -/
structure ScoreDetails where
  isDirect : Bool
  importCount : Int
  inEntryPoint : Bool
  dependencyCount : Int
  deriving DecidableEq

/-- The rounded score of a package. -/
structure PackageScore where
  package : String
  score : Int
  details : ScoreDetails
  deriving DecidableEq

namespace PackageScore

/-! ## Weights -/

/-- The points of a declared package. -/
def directPoints : Int := 30

/-- The points of ten references. -/
def usagePoints : Int := 20

def importPoints : Int := 25

def entryPointPoints : Int := 25

/-! ## Sums -/

/-- The running sums, in the order in which the packages were first named. -/
abbrev Sums := List (String × Measure)

/-- A sum with points added to it; a package without a sum starts from zero. -/
def addPoints (sums : Sums) (package : String) (points : Measure) : Except NumberError Sums := do
  return Json.put package (← ((Json.lookup package sums).getD .zero).add points) sums

/-- The points of a number of references. -/
def addUsage (sums : Sums) (usage : String × Int) : Except NumberError Sums := do
  addPoints sums usage.1 (.real (← Binary64.ofQuotient (usage.2 * usagePoints) 10))

/-- The points of a declaration. -/
def addDirect (sums : Sums) (package : String) : Except NumberError Sums :=
  addPoints sums package (.whole directPoints)

/-- The points of the imports of a package. -/
def addImports (sums : Sums) (entry : ImportEntry) : Except NumberError Sums := do
  let sums ← addPoints sums entry.package
    (.real (← Binary64.ofQuotient (entry.usageCount * importPoints) 5))
  if entry.inEntryPoint then
    addPoints sums entry.package (.whole entryPointPoints)
  else
    return sums

def sums (usages : List (String × Int)) (imports : ImportSignals) : Except NumberError Sums := do
  let afterUsages ← usages.foldlM addUsage []
  let afterDirect ← imports.direct.foldlM addDirect afterUsages
  imports.entries.foldlM addImports afterDirect

/-! ## Ranking -/

/-- The signals of a package; the first occurrence of each kind counts. -/
def detailsOf (usages : List (String × Int)) (imports : ImportSignals) (package : String) :
    ScoreDetails :=
  let entry := imports.entries.find? fun entry => entry.package = package
  { isDirect := imports.direct.contains package
    importCount := (entry.map ImportEntry.usageCount).getD 0
    inEntryPoint := (entry.map ImportEntry.inEntryPoint).getD false
    dependencyCount := (Json.lookup package usages).getD 0 }

/-- The score of every package, the highest first. -/
def rank (usages : List (String × Int)) (imports : ImportSignals) :
    Except NumberError (List PackageScore) := do
  let totals ← sums usages imports
  let scores ← totals.mapM fun (package, total) => do
    return (⟨package, ← total.roundHalfUp, detailsOf usages imports package⟩ : PackageScore)
  return scores.mergeSort fun a b => b.score ≤ a.score

/-! ## Signals from JSON values -/

/-- What is wrong with the signals handed to the ranking. -/
inductive InputError where
  | usagesNotAList
  | usageNotAPair (item : Json.Value)
  | countNotAnInteger (package : Json.Value)
  | importsNotAnObject
  | importsFieldNotAList (field : String)
  | invalidImports (issues : List Json.Issue)

def InputError.message : InputError → String
  | .usagesNotAList => "dep_data must be a list of (package, count) pairs"
  | .usageNotAPair item =>
    "dep_data entries must be (package, count) pairs, got " ++ item.literalString
  | .countNotAnInteger package =>
    "dep_data count for " ++ package.literalString ++ " must be an integer"
  | .importsNotAnObject => "import_data must be an object"
  | .importsFieldNotAList field => "import_data." ++ field ++ " must be a list"
  | .invalidImports issues => "Invalid import_data: " ++ Json.issuesMessage issues

/-- Why no scores come of signals: there is something wrong with them, or there is no room to write out one
of their values, or a number is beyond all measure. -/
inductive ScoringFailure where
  | input (error : InputError)
  | tooDeep
  | number (error : NumberError)

/-- The refusal of a value that its message shows. -/
def refusal (room : Nat) (shown : Json.Value) (error : InputError) : ScoringFailure :=
  if shown.height ≤ room then .input error else .tooDeep

/-- One pair of a package and a count. The package is named by the plain text of its value. -/
def readUsage (room : Nat) : Json.Value → Except ScoringFailure (String × Int)
  | .array [package, .int count] =>
    if package.plainHeight ≤ room then .ok (package.plain, count) else .error .tooDeep
  | .array [package, _] => .error (refusal room package (.countNotAnInteger package))
  | item => .error (refusal room item (.usageNotAPair item))

/-- The pairs of packages and counts. -/
def readUsages (room : Nat) : Json.Value → Except ScoringFailure (List (String × Int))
  | .array items => items.mapM (readUsage room)
  | _ => .error (.input .usagesNotAList)

/-- The imports of one package from a record. -/
def readEntry : Json.Value → Json.Checked ImportEntry
  | .object members =>
    let package := Json.requiredField members "package" (Json.scalar Json.Value.toText)
    let usageCount := Json.optionalField members "usage_count" 0 (Json.scalar Json.Value.toInteger)
    let inEntryPoint :=
      Json.optionalField members "is_in_entry_point" false (Json.scalar Json.Value.toTruth)
    (Json.both package (Json.both usageCount inEntryPoint)).map
      fun (package, usageCount, inEntryPoint) => ⟨package, usageCount, inEntryPoint⟩
  | _ => Json.problem (.notRecord "ImportEntry")

/-- The import signals of a record; absent lists are empty. -/
def readSignals (members : List (String × Json.Value)) : Json.Checked ImportSignals :=
  let direct := Json.optionalField members "direct_deps" []
    (Json.listOf (Json.scalar Json.Value.toText))
  let entries := Json.optionalField members "import_analysis" [] (Json.listOf readEntry)
  (Json.both direct entries).map fun (direct, entries) => ⟨direct, entries⟩

/-- A field of the import signals that has to be a list. -/
def requireList (members : List (String × Json.Value)) (field : String) : Except InputError Unit :=
  match Json.lookup field members with
  | some (.array _) => .ok ()
  | _ => .error (.importsFieldNotAList field)

/-- The import signals of a value, which has to be an object with both lists. -/
def readImports : Json.Value → Except InputError ImportSignals
  | .object members => do
    requireList members "direct_deps"
    requireList members "import_analysis"
    (readSignals members).mapError .invalidImports
  | _ => .error .importsNotAnObject

/-- The scores of two JSON values, with room to write out values up to some height. -/
def ofValues (room : Nat) (usages imports : Json.Value) :
    Except ScoringFailure (List PackageScore) := do
  let usages ← readUsages room usages
  let imports ← (readImports imports).mapError .input
  (rank usages imports).mapError .number

/-- The scores of usages given as a JSON value and import signals that are known to be well formed. -/
def ofUsages (room : Nat) (usages : Json.Value) (imports : ImportSignals) :
    Except ScoringFailure (List PackageScore) := do
  let usages ← readUsages room usages
  (rank usages imports).mapError .number

end PackageScore
end ProjectGauge
