import ProjectGauge.Files.System
import ProjectGauge.Json.Reader

/-!
# Manifests

The manifest of a project is the JSON object in its file `package.json`. The packages of its section
`dependencies` and those of its section `devDependencies` are declared; where both declare a package,
the second says which version.

It is assumed that a manifest nests no deeper than the interpreter has room for, which is nearly a
thousand brackets: the reader here has no limit, where the interpreter's would stop with an error of
its own. Names and versions are texts of characters; a surrogate without a partner in them is read as
the replacement character.

* `Manifest.declared` reads the declared packages of a project with their versions.
-/

namespace ProjectGauge.Manifest

open Files

/-- The name of the manifest. -/
def fileName : Name := "package.json".toList

/-- The sections that declare packages, the one that counts more behind the other. -/
def sections : List String := ["dependencies", "devDependencies"]

/-- Why a manifest is not read. -/
inductive ManifestError where
  | files (error : Files.Error)
  | undecodable (error : Text.Utf8.DecodeError)
  | malformed (error : Json.ReadError)
  | notObject
  | sectionNotObject (name : String)
  deriving DecidableEq

def ManifestError.message : ManifestError → String
  | .files error => error.message
  | .undecodable error => error.message
  | .malformed error => error.message
  | .notObject => "package.json must contain an object"
  | .sectionNotObject name => "package.json " ++ name ++ " must be an object"

/-- The declared packages with their versions, in the order in which they were first declared. -/
abbrev Declared := List (String × Json.Value)

/-- The members of a section; one that is absent or empty has none. -/
def sectionMembers (manifest : Declared) (name : String) : Except ManifestError Declared :=
  match Json.lookup name manifest with
  | none => .ok []
  | some (.object members) => .ok members
  | some value => if value.isEmpty then .ok [] else .error (.sectionNotObject name)

def declaredIn : Json.Value → Except ManifestError Declared
  | .object manifest =>
    sections.foldlM (fun declared name => do
      return Json.merge declared (← sectionMembers manifest name)) []
  | _ => .error .notObject

def parse (bytes : List UInt8) : Except ManifestError Json.Value := do
  let text ← (Text.Utf8.decode bytes).mapError .undecodable
  (Json.read (Text.unifyNewlines text)).mapError .malformed

/-- The packages that a project declares; one without a manifest declares none. -/
def declared (system : System) (project : Path) : Except ManifestError Declared := do
  let file := project.child fileName
  if !(← (system.exists? file).mapError .files) then return []
  declaredIn (← parse (← (system.bytesAt file).mapError .files))

end ProjectGauge.Manifest
