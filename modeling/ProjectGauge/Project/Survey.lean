import ProjectGauge.Project.Analysis
import ProjectGauge.Tally

/-!
# Surveys

A survey is all that is reported of a directory: its dependencies, its imports, the scores of its
packages and its analysis. A directory always has a survey; what cannot be found out is noted and
counts as nothing.

* `Project.survey` surveys a directory.
* `Survey.tally` and `Survey.importTotal` gather the surveys of several directories.
-/

namespace ProjectGauge

open Files

/-- What is reported of a directory. -/
structure Survey where
  directory : String
  dependencies : List Dependency
  imports : ImportMap
  /-- The scores of its packages, if it declares or imports any. -/
  scores : Option (Except NumberError (List PackageScore))
  analysis : DirectoryAnalysis

namespace Project

/-- The import map of a project, empty if its files cannot be scanned. -/
def importsOrNone (system : System) (project : Path) : Noted ImportMap :=
  match imports system project with
  | .ok found => found
  | .error e => .withNote [] (.error e.message)

/-- The declared packages of a project, none if its manifest cannot be read. -/
def declaredOrNone (system : System) (directory : String) : Noted Manifest.Declared :=
  match Manifest.declared system (Path.parse directory.toList) with
  | .ok declared => .plain declared
  | .error e =>
    .withNote [] (.warning
      ("Could not read declared dependencies of " ++ directory ++ ": " ++ e.message))

/-- The scores of packages, if any package is declared or imported. -/
def scoresIfAny (dependencies : List Dependency) (declared : Manifest.Declared)
    (imports : ImportMap) : Option (Except NumberError (List PackageScore)) :=
  if declared.isEmpty && imports.isEmpty then none
  else some (packageScores dependencies declared imports)

def survey (system : System) (clock : Clock) (directory : String) : Noted Survey :=
  let project := Path.parse directory.toList
  let dependencies := dependencies system project
  let imports := importsOrNone system project
  let declared := declaredOrNone system directory
  let analysis := analyze system clock ⟨some dependencies.value, some imports.value⟩ directory.toList
  { value :=
      { directory := directory
        dependencies := dependencies.value
        imports := imports.value
        scores := scoresIfAny dependencies.value declared.value imports.value
        analysis := analysis.value }
    notes := dependencies.notes ++ imports.notes ++ declared.notes ++ analysis.notes }

end Project

namespace Survey

def addTo (tally : Tally) (survey : Survey) : Tally :=
  survey.dependencies.foldl (fun tally dependency => tally.add dependency survey.directory) tally

def tally (surveys : List Survey) : Tally :=
  surveys.foldl addTo []

def importTotal (surveys : List Survey) : Int :=
  (surveys.map fun survey => survey.imports.score).foldl (· + ·) 0

end Survey
end ProjectGauge
