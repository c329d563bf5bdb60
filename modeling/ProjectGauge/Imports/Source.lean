import ProjectGauge.Imports.Declaration
import ProjectGauge.Script.Module

/-!
# Imports of a source text

The specifiers of a script are those of its import declarations. A script that is beyond the parser,
and a source in TypeScript, is searched for declarations by their form instead.
-/

namespace ProjectGauge.Imports

def typedSuffixes : List String :=
  [".ts", ".tsx"]

/-- The specifiers that a source imports, by its suffix. -/
def specifiers (suffix : String) (source : List Char) :
    Except Script.Rejection (List (List Char)) :=
  if typedSuffixes.contains suffix then .ok (specifiersByForm source)
  else
    match Script.importSources source with
    | .error .grammar => .ok (specifiersByForm source)
    | result => result

end ProjectGauge.Imports
