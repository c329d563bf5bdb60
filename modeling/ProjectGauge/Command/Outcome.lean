import ProjectGauge.Environment.Typed
import ProjectGauge.Environment.Settings
import ProjectGauge.Project.Analysis
import ProjectGauge.Store.Access
import ProjectGauge.Console.Style
import ProjectGauge.Command.Options

/-!
# Outcomes

A run starts in a world and has an outcome: what it prints, how it ends, and the file system that it
leaves. It ends with an exit code, or it breaks off with a cause that nobody has expected.

It is assumed that printing succeeds: all that is printed is text that the output can take, and nobody
closes the output meanwhile. A run that adds or removes a directory prints behind the change, so that a
failure to print would change the ending of a run, but not the files that it leaves.
-/

namespace ProjectGauge

open Files

/-- What a run finds: the files, the environment, and the clock of each directory. -/
structure World where
  system : System
  environment : Environment
  clock : String → Clock

/-- An unexpected cause. -/
inductive Crash where
  | place (error : PlaceError)
  | settings (error : SettingsError)
  | tooDeep (container : Json.Container)
  | style (error : Console.StyleError)

/-- The wording of a crash. -/
def Crash.message : Crash → String
  | .place error => error.message
  | .settings error => error.message
  | .tooDeep container => container.tooDeep
  | .style error => error.message

/-- The end of a run. -/
inductive RunEnd where
  | exit (code : Nat)
  | usage (error : UsageError)
  | crash (cause : Crash)

/-- The code of a run that has done what was asked. -/
def successCode : Nat := 0

def failureCode : Nat := 1

/-- The code of a run with a command line that makes no sense. -/
def usageCode : Nat := 2

def RunEnd.code : RunEnd → Nat
  | .exit code => code
  | .usage _ => usageCode
  | .crash _ => failureCode

/-- What comes of a run. -/
structure Outcome where
  output : List Char
  notes : List Note
  ending : RunEnd
  system : System

namespace Outcome

/-- A run that has done what was asked without a change to the files. -/
def success (world : World) (output : List Char) : Outcome :=
  ⟨output, [], .exit successCode, world.system⟩

/-- A run that has failed. -/
def failure (world : World) (output : List Char) : Outcome :=
  ⟨output, [], .exit failureCode, world.system⟩

/-- A run with a command line that makes no sense. -/
def misuse (world : World) (error : UsageError) : Outcome :=
  ⟨[], [], .usage error, world.system⟩

/-- A run that breaks off. -/
def crashed (world : World) (cause : Crash) : Outcome :=
  ⟨[], [], .crash cause, world.system⟩

/-- A run that breaks off because of the files. -/
def blocked (world : World) (error : Files.Error) : Outcome :=
  crashed world (.place (.files error))

/-- A run that breaks off because of its store. -/
def stopped (world : World) : Store.StoreError → Outcome
  | .files error => blocked world error
  | .tooDeep container => crashed world (.tooDeep container)

/-- An outcome with notes taken before. -/
def after (notes : List Note) (outcome : Outcome) : Outcome :=
  { outcome with notes := notes ++ outcome.notes }

/-- An outcome with a text printed before. -/
def behind (output : List Char) (outcome : Outcome) : Outcome :=
  { outcome with output := output ++ outcome.output }

end Outcome

/-- A world with other files. -/
def World.withSystem (world : World) (system : System) : World :=
  { world with system := system }

end ProjectGauge
