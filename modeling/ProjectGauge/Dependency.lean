import ProjectGauge.Json.Field

/-!
# Dependencies

A dependency is a package that a project declares, with its version and the number of references
to it. The version is shown without range markers; a declared version that is not a text is shown
by its literal, for which it is assumed that there is room (`Json.Value.height` says how much it takes).
-/

namespace ProjectGauge

/-- A declared package with the number of references found. -/
structure Dependency where
  name : String
  version : String
  count : Int
  deriving DecidableEq

namespace Dependency

/-- A declared version without its range markers `^` and `~`. -/
def dropRangeMarkers (version : String) : String :=
  String.ofList (version.toList.filter fun c => c != '^' && c != '~')

/-- The version to show for a declared one. Only texts have range markers. -/
def displayVersion : Json.Value → String
  | .text version => dropRangeMarkers version
  | value => value.literalString

def ofRecord (members : List (String × Json.Value)) : Json.Checked Dependency :=
  let name := Json.requiredField members "name" (Json.scalar Json.Value.toText)
  let version := Json.requiredField members "version" fun value => .ok (displayVersion value)
  let count := Json.optionalField members "count" 0 (Json.scalar Json.Value.toInteger)
  (Json.both name (Json.both version count)).map fun (name, version, count) => ⟨name, version, count⟩

end Dependency
end ProjectGauge
