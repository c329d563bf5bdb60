import ProjectGauge.Project.Sources
import ProjectGauge.Note
import ProjectGauge.Imports.Source
import ProjectGauge.Score.Package

/-!
# Imported packages

The import map of a project says of each package that its sources import how often they do so, in which
files, and whether an entry point is among them. Specifiers that start with a point name files of the
project and do not count. A source that cannot be read is noted and left out.

* `Project.imports` gives the import map of a project.
* `ImportMap.score` is the number of all imports in a map.
-/

namespace ProjectGauge

open Files

/-- The imports of a package: how many there are, the file of each, and whether one of the files is an
entry point. -/
structure ImportUsage where
  count : Int
  files : List String
  inEntryPoint : Bool
  deriving DecidableEq

def ImportUsage.none : ImportUsage :=
  ⟨0, [], false⟩

/-- The imports of packages, in the order in which they were first imported. -/
abbrev ImportMap := List (String × ImportUsage)

/-- The files at the top of a project with which its program starts. -/
def entryPoints : List String :=
  ["index.js", "main.js", "server.js", "app.js"]

/-- A specifier names a package and not a file of the project. -/
def isPackage (specifier : List Char) : Bool :=
  specifier.head? != some '.'

namespace ImportUsage

def add (usage : ImportUsage) (file : String) : ImportUsage :=
  ⟨usage.count + 1, usage.files ++ [file], usage.inEntryPoint || entryPoints.contains file⟩

end ImportUsage

namespace ImportMap

def usage (map : ImportMap) (package : String) : ImportUsage :=
  (Json.lookup package map).getD .none

/-- The map with a further import of a package in a file. -/
def add (file : String) (map : ImportMap) (package : String) : ImportMap :=
  Json.put package ((map.usage package).add file) map

def addAll (map : ImportMap) (file : String) (specifiers : List (List Char)) : ImportMap :=
  ((specifiers.filter isPackage).map String.ofList).foldl (add file) map

/-- The number of all imports. -/
def score (map : ImportMap) : Int :=
  (map.map fun entry => entry.2.count).foldl (· + ·) 0

/-- The map as signals for package scores. -/
def entries (map : ImportMap) : List ImportEntry :=
  map.map fun (package, usage) => ⟨package, usage.count, usage.inEntryPoint⟩

end ImportMap

/-- Why the imports of a project are not known: its files cannot be scanned. -/
structure ImportError where
  cause : ScanError
  deriving DecidableEq

def ImportError.message (e : ImportError) : String :=
  "Error analyzing imports: " ++ e.cause.message

namespace Project

/-- The map with the imports of a source file, or with a note that it cannot be read. -/
def addImports (known : Noted ImportMap) (file : SourceFile) : Noted ImportMap :=
  let path := String.ofList file.path
  match Imports.specifiers (String.ofList file.suffix) file.text with
  | .ok specifiers => { known with value := known.value.addAll path specifiers }
  | .error e =>
    { known with
      notes := known.notes ++ [.warning ("Could not parse " ++ path ++ ": " ++ e.message)] }

/-- The import map of source files, with the notes taken before. -/
def importsOf (files : Noted (List SourceFile)) : Noted ImportMap :=
  files.value.foldl addImports ⟨[], files.notes⟩

def imports (system : System) (project : Path) : Except ImportError (Noted ImportMap) := do
  return importsOf (← (sources system project).mapError .mk)

end Project
end ProjectGauge
