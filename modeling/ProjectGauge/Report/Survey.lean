import ProjectGauge.Project.Survey
import ProjectGauge.Report.Ranking
import ProjectGauge.Console.Style
import ProjectGauge.Console.Frame
import ProjectGauge.Console.Table

/-!
# The report of an analysis

The report goes through the surveys one by one and ends with the ranking of all dependencies. It comes
in parts; a part that cannot be computed is the last one that is reached.

* `surveyParts` is the report of one survey.
* `analysisParts` is the whole report.
-/

namespace ProjectGauge.Report

open Console

/-- A part of a report. -/
abbrev Part := Except NumberError (List Char)

/-- The parts in front of the first failure, and the failure. -/
def untilFailure : List Part → List Char × Option NumberError
  | [] => ([], none)
  | .error e :: _ => ([], some e)
  | .ok text :: rest =>
    let (further, failure) := untilFailure rest
    (text ++ further, failure)

def linePart (text : String) : Part :=
  .ok (printedString text)

/-! ## One survey -/

def dependencyLine (dependency : Dependency) : List Char :=
  printedString (dependency.name ++ "@" ++ dependency.version ++ " - Used " ++
    Text.intString dependency.count ++ " times")

/-- The dependencies of a survey. -/
def dependencyParts (dependencies : List Dependency) : List Part :=
  if dependencies.isEmpty then [linePart "No dependencies found or no package.json present"]
  else
    [linePart "\nDependency Usage Chart:",
      (usageChartText dependencies).map printedString,
      linePart "\nDependencies found:",
      .ok (dependencies.flatMap dependencyLine)]

/-- The imports of a survey. -/
def importPart (imports : Int) : Part :=
  if 0 < imports then linePart ("\nImport Analysis Score: " ++ Text.intString imports)
  else linePart "\nNo imports found or unable to analyze imports"

/-- The columns of a table of package scores. -/
def scoreColumns : List Column :=
  [⟨"#", .left⟩, ⟨"Package", .right⟩, ⟨"Score", .left⟩, ⟨"Direct", .right⟩, ⟨"Imports", .left⟩,
    ⟨"Entry Point", .right⟩, ⟨"Usage", .left⟩]

/-- A truth value in a table. -/
def yesOrNo (b : Bool) : List Char :=
  if b then "Yes".toList else "No".toList

def scoreRow (place : Nat) (score : PackageScore) : Row :=
  [Text.natDigits place, alone score.package.toList, Text.intText score.score,
    yesOrNo score.details.isDirect, Text.intText score.details.importCount,
    yesOrNo score.details.inEntryPoint, Text.intText score.details.dependencyCount]

def scoreTable (scores : List PackageScore) : List Char :=
  table "Package Importance" scoreColumns
    (scores.zipIdx.map fun (score, index) => scoreRow (index + 1) score)

/-- The first package scores of a survey. -/
def scoreParts (top : Nat) : Option (Except NumberError (List PackageScore)) → List Part
  | none => []
  | some scores => [scores.map fun scores => '\n' :: scoreTable (scores.take top)]

/-- The analysis of a survey. -/
def overallPart (analysis : DirectoryAnalysis) : Part :=
  let findings :=
    match analysis.error with
    | some error => laidOut ("- ".toList ++ within "red" ("Error: " ++ error).toList)
    | none =>
      printedString ("- File Count: " ++ Text.intString analysis.fileCount) ++
        printed ("- Directory Size: ".toList ++ analysis.size ++ " MB".toList)
  .ok (printedString "\nOverall Analysis:" ++ findings ++
    printedString ("- Overall Score: " ++ Text.intString analysis.score ++ "/100\n"))

/-- The report of a survey. -/
def surveyParts (top : Nat) (survey : Survey) : List Part :=
  .ok (frame (within "bold" ("Analyzing " ++ survey.directory).toList)) ::
    dependencyParts survey.dependencies ++ importPart survey.imports.score ::
    scoreParts top survey.scores ++ [overallPart survey.analysis]

/-! ## All surveys -/

def rankingPart (surveys : List Survey) : Part := do
  let lines ← ranking (Survey.tally surveys) (Survey.importTotal surveys) surveys.length
  return lines.flatMap printed

/-- The report of all surveys. -/
def analysisParts (top : Nat) (surveys : List Survey) : List Part :=
  linePart "\nAnalyzing stored directories:\n" :: surveys.flatMap (surveyParts top) ++
    [.ok ['\n'], rankingPart surveys]

end ProjectGauge.Report
