import ProjectGauge.Environment.Home
import ProjectGauge.Json.Field
import ProjectGauge.Text.Utf8

/-!
# Settings

A run is set up by two variables: where the store is, and how much is logged. A variable that is empty
says nothing.

* `Settings.ofFields` reads settings from named values.
* `Settings.ofEnvironment` reads them from the variables of a run.
-/

namespace ProjectGauge

open Files

/-! ## Log levels -/

/-- How much is logged. -/
inductive LogLevel where
  | debug
  | info
  | warning
  | error
  | critical
  deriving DecidableEq

def LogLevel.name : LogLevel → String
  | .debug => "DEBUG"
  | .info => "INFO"
  | .warning => "WARNING"
  | .error => "ERROR"
  | .critical => "CRITICAL"

def LogLevel.all : List LogLevel := [.debug, .info, .warning, .error, .critical]

/-- A letter in upper case. Of the letters beyond ASCII only the dotless i has a capital that occurs in
the name of a log level. -/
def capital (c : Char) : Char :=
  if c == 'ı' then 'I' else c.toUpper

def LogLevel.ofName? (name : String) : Option LogLevel :=
  let capitals := String.ofList (name.toList.map capital)
  LogLevel.all.find? fun level => level.name = capitals

/-! ## Settings -/

/-- What a run is set up with. The store is in its standard place if no file is named. -/
structure Settings where
  storeFile : Option Path
  logLevel : LogLevel

/-- A value that is refused, with the reason. -/
structure Refusal where
  field : String
  value : Json.Value
  reason : String

/-- Why settings are not read: the home directory of the store file is not known, the store file is no
path, or values are refused. -/
inductive SettingsError where
  | home (error : HomeError)
  | notAPath (value : Json.Value)
  | refused (refusals : List Refusal)

namespace Settings

/-- The name of the value that says where the store is. -/
def storeFileField : String := "config_file"

/-- The name of the value that says how much is logged. -/
def logLevelField : String := "log_level"

/-- The names of the standard store file below a home directory. -/
def standardNames : List Name := [".diranalyzer", "directories.json"].map String.toList

/-- The standard store file, which is below the home directory of the run. -/
def standardStoreFile (environment : Environment) : Except HomeError Path := do
  let home ← environment.expandHome (Path.parse [tilde])
  return { home with names := home.names ++ standardNames }

/-- The store file that a value names. -/
def storeFileOf (environment : Environment) :
    Json.Value → Except SettingsError (Except Refusal Path)
  | .text name =>
    match environment.expandHome (Path.parse name.toList) with
    | .ok file => .ok (.ok file)
    | .error .nullCharacter =>
      .ok (.error ⟨storeFileField, .text name, HomeError.nullCharacter.message⟩)
    | .error e => .error (.home e)
  | value => .error (.notAPath value)

def logLevelOf (value : Json.Value) : Except Refusal LogLevel :=
  match LogLevel.ofName? value.plain with
  | some level => .ok level
  | none => .error ⟨logLevelField, value, "Unknown log level: " ++ value.plain⟩

/-- The refusal of a value that may be absent. -/
def refusalOf : Option (Except Refusal α) → List Refusal
  | some (.error refusal) => [refusal]
  | _ => []

/-- The settings of checked values. -/
def ofChecked (storeFile : Option (Except Refusal Path)) (logLevel : Option (Except Refusal LogLevel)) :
    Except SettingsError Settings :=
  match storeFile.mapM id, logLevel.mapM id with
  | .ok storeFile, .ok logLevel => .ok ⟨storeFile, logLevel.getD .warning⟩
  | _, _ => .error (.refused (refusalOf storeFile ++ refusalOf logLevel))

/-- The settings from named values. -/
def ofFields (environment : Environment) (fields : List (String × Json.Value)) :
    Except SettingsError Settings := do
  let storeFile ← (Json.lookup storeFileField fields).mapM (storeFileOf environment)
  ofChecked storeFile ((Json.lookup logLevelField fields).map logLevelOf)

/-- The variables that set a run up, with the names of their values. -/
def variableFields : List (String × String) :=
  [("DIRANALYZER_CONFIG_FILE", storeFileField), ("DIRANALYZER_LOG_LEVEL", logLevelField)]

/-- The settings from the variables of a run. -/
def ofEnvironment (environment : Environment) : Except SettingsError Settings :=
  ofFields environment <| variableFields.filterMap fun (name, field) =>
    (environment.given? name).map fun value => (field, Json.Value.text value)

end Settings

/-- What is wrong with a refused value. -/
def Refusal.problem (refusal : Refusal) : Json.Problem :=
  .rejected refusal.reason

/-- The place of a refused value with what is wrong there. -/
def Refusal.issue (refusal : Refusal) : Json.Issue :=
  ⟨[.field refusal.field], refusal.problem⟩

namespace SettingsError

def message : SettingsError → String
  | .home error => error.message
  | .notAPath value =>
    "expected str, bytes or os.PathLike object, not " ++ value.typeName
  | .refused refusals => Json.issuesMessage (refusals.map Refusal.issue)

/-- The most bytes of a literal in a report. -/
def literalLimit : Nat := 50

/-- The longest front of a text that has no more than a number of bytes. -/
def frontBytes : Nat → List Char → List Char
  | _, [] => []
  | limit, c :: rest => if c.utf8Size ≤ limit then c :: frontBytes (limit - c.utf8Size) rest else []

/-- A literal with dots in the place of its middle if it is long. -/
def shortened (literal : List Char) : List Char :=
  if Text.Utf8.byteLength literal ≤ literalLimit then literal
  else
    frontBytes 25 literal ++ "...".toList ++ (frontBytes 24 literal.reverse).reverse

/-- The address of an explanation. -/
def explanation : String :=
  "/".intercalate ["https:", "", "errors.pydantic.dev", "2.14", "v", "value_error"]

/-- A refusal in a report, on several lines. -/
def refusalReport (refusal : Refusal) : String :=
  "\n" ++ refusal.field ++ "\n  " ++ refusal.problem.message ++ " [type=value_error, input_value=" ++
    String.ofList (shortened refusal.value.literal) ++ ", input_type=" ++ refusal.value.typeName ++
    "]\n    For further information visit " ++ explanation

/-- The full report of refusals: their number, and one after the other. -/
def report (refusals : List Refusal) : String :=
  Text.intString refusals.length ++
    (if refusals.length = 1 then " validation error" else " validation errors") ++ " for Settings" ++
    String.join (refusals.map refusalReport)

end SettingsError
end ProjectGauge
