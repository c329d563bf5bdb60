import ProjectGauge.Project.Usage
import ProjectGauge.Project.Imports
import ProjectGauge.Score.Directory
import ProjectGauge.Number.Shortest

/-!
# Directory analyses

The analysis of a directory gathers its number of entries, its size, its age, its dependencies and its
imports, and the score of all of them. A directory that cannot be analysed has an error in place of all
that.

* `Project.analyze` analyses a directory.
* `Project.packageScores` scores the packages of a project.
-/

namespace ProjectGauge

open Files

/-- The moments that an age is measured between, in seconds. -/
structure Clock where
  now : Measure
  created : Measure

/-- The analysis of a directory. -/
structure DirectoryAnalysis where
  path : List Char
  fileCount : Nat
  /-- The size in megabytes with two decimal places. -/
  size : List Char
  dependencies : List Dependency
  importScore : Int
  score : Int
  error : Option String

def DirectoryAnalysis.failed (path : List Char) (error : String) : DirectoryAnalysis :=
  ⟨path, 0, "0.00".toList, [], 0, 0, some error⟩

/-- Why a directory is not analysed. -/
inductive AnalysisError where
  | files (error : Files.Error)
  | scan (error : ScanError)
  | imports (error : ImportError)
  | number (error : NumberError)

def AnalysisError.message : AnalysisError → String
  | .files error => error.message
  | .scan error => error.message
  | .imports error => error.message
  | .number error => error.message

/-- What is already known of a directory. -/
structure Known where
  dependencies : Option (List Dependency)
  imports : Option ImportMap

def Known.nothing : Known :=
  ⟨none, none⟩

namespace Clock

/-- The age of a directory in days. -/
def days (clock : Clock) : Except NumberError Measure := do
  return .real (← (← clock.now.sub clock.created).dividedBy DirectoryScore.secondsPerDay)

end Clock

namespace Project

def megabytes (bytes : Nat) : Except NumberError Binary64 :=
  Binary64.ofQuotient bytes DirectoryScore.bytesPerMegabyte

/-- The dependencies that are known, or those that are found. -/
def dependenciesOr (system : System) (project : Path) : Option (List Dependency) → Noted (List Dependency)
  | some known => .plain known
  | none => dependencies system project

/-- The import map that is known, or the one that is found. -/
def importsOr (system : System) (project : Path) :
    Option ImportMap → Except ImportError (Noted ImportMap)
  | some known => .ok (.plain known)
  | none => imports system project

/-- The size in megabytes of a number of bytes, and the age. -/
def sizeAndAge (clock : Clock) (bytes : Nat) : Except AnalysisError (Binary64 × Measure) := do
  let size ← (megabytes bytes).mapError .number
  let age ← clock.days.mapError .number
  return (size, age)

/-- The size and the age of a directory, with its number of entries. The notes of the scan for its size
stay if the age is not known. -/
def measures (system : System) (clock : Clock) (project : Path) :
    Noted (Except AnalysisError (Nat × Binary64 × Measure)) :=
  match entryCount system project with
  | .error e => .plain (.error (.files e))
  | .ok count =>
    { value := do
        let bytes ← (totalSize system excludedDirectories project).mapError .scan
        return (count, ← sizeAndAge clock bytes)
      notes := scanNotes system excludedDirectories project }

/-- The analysis of what has been measured and found. -/
def conclude (path : List Char) (count : Nat) (size : Binary64) (age : Measure)
    (dependencies : List Dependency) (imports : ImportMap) :
    Except AnalysisError DirectoryAnalysis := do
  let score ← (DirectoryScore.compute count (.real size) age dependencies.length
    imports.score).mapError .number
  return ⟨path, count, size.fixed 2, dependencies, imports.score, score, none⟩

/-- The analysis of a directory that has an error, with a note of it behind others. -/
def failure (path : List Char) (notes : List Note) (e : AnalysisError) : Noted DirectoryAnalysis :=
  ⟨.failed path e.message,
    notes ++ [.error ("Error analyzing directory " ++ String.ofList path ++ ": " ++ e.message)]⟩

/-- The analysis of a directory. -/
def analyze (system : System) (clock : Clock) (known : Known) (path : List Char) :
    Noted DirectoryAnalysis :=
  let project := Path.parse path
  let measured := measures system clock project
  match measured.value with
  | .error e => failure path measured.notes e
  | .ok (count, size, age) =>
    let dependencies := dependenciesOr system project known.dependencies
    let before := measured.notes ++ dependencies.notes
    match importsOr system project known.imports with
    | .error e => failure path before (.imports e)
    | .ok imports =>
      let notes := before ++ imports.notes
      match conclude path count size age dependencies.value imports.value with
      | .ok analysis => ⟨analysis, notes⟩
      | .error e => failure path notes e

/-- The scores of the packages of a project, given its dependencies, its declared packages and its
imports. -/
def packageScores (dependencies : List Dependency) (declared : Manifest.Declared)
    (imports : ImportMap) : Except NumberError (List PackageScore) :=
  PackageScore.rank (dependencies.map fun dependency => (dependency.name, dependency.count))
    ⟨declared.map Prod.fst, imports.entries⟩

end Project
end ProjectGauge
