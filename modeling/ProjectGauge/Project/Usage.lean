import ProjectGauge.Project.Manifest
import ProjectGauge.Project.Sources
import ProjectGauge.Note
import ProjectGauge.Dependency
import ProjectGauge.Usage.Reference

/-!
# Used dependencies

The dependencies of a project are the packages that it declares and that its sources refer to, the
most used first and equally used ones in the order of their declaration.

* `Project.dependencies` gives the dependencies of a project; a failure is noted and leaves none.
-/

namespace ProjectGauge

open Files

/-- Why the dependencies of a project are not known. -/
inductive DependencyError where
  | manifest (error : Manifest.ManifestError)
  | scan (error : ScanError)
  deriving DecidableEq

def DependencyError.message : DependencyError → String
  | .manifest error => error.message
  | .scan error => error.message

namespace Project

def referenceCount (package : String) (texts : List (List Char)) : Nat :=
  (texts.map (Usage.countReferences package.toList)).foldl (· + ·) 0

/-- The declared packages with the number of references to each, as dependencies. -/
def countDependencies (declared : Manifest.Declared) (texts : List (List Char)) : List Dependency :=
  declared.map fun (name, version) =>
    ⟨name, Dependency.displayVersion version, referenceCount name texts⟩

/-- The dependencies that are used, the most used first. -/
def rankUsed (dependencies : List Dependency) : List Dependency :=
  (dependencies.filter fun dependency => 0 < dependency.count).mergeSort
    fun a b => b.count ≤ a.count

/-- The dependencies of a project. Without declared packages its sources are not scanned. -/
def dependencies? (system : System) (project : Path) :
    Except DependencyError (Noted (List Dependency)) := do
  let declared ← (Manifest.declared system project).mapError .manifest
  if declared.isEmpty then return .plain []
  let files ← (sources system project).mapError .scan
  return ⟨rankUsed (countDependencies declared (files.value.map SourceFile.text)), files.notes⟩

/-- The dependencies of a project, none if they are not known. -/
def dependencies (system : System) (project : Path) : Noted (List Dependency) :=
  match dependencies? system project with
  | .ok found => found
  | .error e => .withNote [] (.error ("Error analyzing dependencies: " ++ e.message))

end Project
end ProjectGauge
