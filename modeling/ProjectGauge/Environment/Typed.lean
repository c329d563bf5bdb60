import ProjectGauge.Environment.Home
import ProjectGauge.Files.Resolve
import ProjectGauge.Text.Blank

/-!
# Typed paths

A path that a person types may have blanks around it and a tilde at its start. The tilde is the home
directory and nothing else: what follows is looked for below it, however many slashes and backslashes
stand between.

* `Environment.place` gives the canonical place of a typed path.
-/

namespace ProjectGauge

open Files

/-- Why a typed path has no place. -/
inductive PlaceError where
  | home (error : HomeError)
  | files (error : Files.Error)
  deriving DecidableEq

def PlaceError.message : PlaceError → String
  | .home error => error.message
  | .files error => error.message

namespace Environment

/-- The variables with a home directory, the first that is given being the one that counts. -/
def homeVariables : List String := [homeVariable, "USERPROFILE"]

/-- The home directory that a typed tilde stands for. -/
def typedHome (environment : Environment) : Except HomeError (List Char) :=
  match homeVariables.findSome? environment.given? with
  | some home => .ok home.toList
  | none => do return (← environment.expandHome (Path.parse [tilde])).text

def below (directory rest : List Char) : List Char :=
  if directory.getLast? == some '/' then directory ++ rest else directory ++ '/' :: rest

/-- A slash of either kind. -/
def isAnySlash (c : Char) : Bool :=
  c == '/' || c == '\\'

/-- The text of a typed path, with its tilde replaced. -/
def typedText (environment : Environment) (raw : List Char) : Except HomeError (List Char) :=
  match Text.stripBlanks raw with
  | c :: rest =>
    if c == tilde then do return below (← environment.typedHome) (rest.dropWhile isAnySlash)
    else .ok (c :: rest)
  | [] => .ok []

/-- The canonical place of a typed path. -/
def place (environment : Environment) (system : System) (raw : List Char) :
    Except PlaceError Path := do
  let text ← (environment.typedText raw).mapError .home
  (system.resolve (Path.parse text)).mapError .files

end Environment
end ProjectGauge
