import ProjectGauge.Json.Value
import ProjectGauge.Json.Literal
import ProjectGauge.Text.Numeral

/-!
# Typed fields of JSON values

Data that comes from outside is read field by field. Text fields take texts only; integer and
truth fields also take what plainly stands for one. All problems of a record are collected, in the
order of its fields, each with the path of field names and list positions that leads to it.
-/

namespace ProjectGauge.Json

/-! ## Problems -/

/-- What is wrong with a field. -/
inductive Problem where
  | missing
  | notText
  | notInteger
  | unreadableInteger
  | fractionalInteger
  | infiniteInteger
  | integerTooLong
  | notTruth
  | unreadableTruth
  | notList
  | notRecord (record : String)
  | rejected (reason : String)
  deriving DecidableEq

/-- The wording of a problem. -/
def Problem.message : Problem → String
  | .missing => "Field required"
  | .notText => "Input should be a valid string"
  | .notInteger => "Input should be a valid integer"
  | .unreadableInteger =>
    "Input should be a valid integer, unable to parse string as an integer"
  | .fractionalInteger =>
    "Input should be a valid integer, got a number with a fractional part"
  | .infiniteInteger => "Input should be a finite number"
  | .integerTooLong => "Unable to parse input string as an integer, exceeded maximum size"
  | .notTruth => "Input should be a valid boolean"
  | .unreadableTruth => "Input should be a valid boolean, unable to interpret input"
  | .notList => "Input should be a valid list"
  | .notRecord record => "Input should be a valid dictionary or instance of " ++ record
  | .rejected reason => "Value error, " ++ reason

/-- A step on the way to a field. -/
inductive Step where
  | field (name : String)
  | item (index : Nat)
  deriving DecidableEq

def Step.text : Step → String
  | .field name => name
  | .item index => Text.intString index

/-- A problem with the path that leads to it. -/
structure Issue where
  path : List Step
  problem : Problem
  deriving DecidableEq

/-- The wording of an issue: its path with points between the steps, and its problem. -/
def Issue.message (issue : Issue) : String :=
  String.intercalate "." (issue.path.map Step.text) ++ ": " ++ issue.problem.message

/-- The wording of several issues. -/
def issuesMessage (issues : List Issue) : String :=
  String.intercalate "; " (issues.map Issue.message)

/-- A value, or all issues that stand in its way. -/
abbrev Checked (α : Type) := Except (List Issue) α

def issuesOf : Checked α → List Issue
  | .ok _ => []
  | .error issues => issues

/-- The issues of a check seen from one step further out. -/
def under (step : Step) (check : Checked α) : Checked α :=
  check.mapError fun issues => issues.map fun issue => ⟨step :: issue.path, issue.problem⟩

/-- Two checks together. -/
def both (first : Checked α) (second : Checked β) : Checked (α × β) :=
  match first, second with
  | .ok a, .ok b => .ok (a, b)
  | first, second => .error (issuesOf first ++ issuesOf second)

/-- A problem of the value itself. -/
def problem (p : Problem) : Checked α :=
  .error [⟨[], p⟩]

/-! ## Integers -/

def numeralProblem : Text.NumeralError → Problem
  | .unreadable => .unreadableInteger
  | .tooLong => .integerTooLong

/-- The bound of the integers that a number with a fraction part may stand for. -/
def integerBound : Int := Int.pow 2 63

/-- A number is the integer that it is equal to. -/
def integerOfReal (x : Binary64) : Except Problem Int :=
  match x with
  | .finite .. =>
    match x.integer? with
    | none => .error .fractionalInteger
    | some n => if -integerBound < n && n < integerBound then .ok n else .error .integerTooLong
  | _ => .error .infiniteInteger

def Value.toInteger : Value → Except Problem Int
  | .int n => .ok n
  | .bool b => .ok (if b then 1 else 0)
  | .real x => integerOfReal x
  | .text s => (Text.readInteger s.toList).mapError numeralProblem
  | _ => .error .notInteger

/-! ## Truth values -/

/-- The truth value of a word, in any case of ASCII. -/
def readTruth (word : String) : Option Bool :=
  let lower := String.ofList (word.toList.map Char.toLower)
  if ["0", "off", "f", "false", "n", "no"].contains lower then some false
  else if ["1", "on", "t", "true", "y", "yes"].contains lower then some true
  else none

/-- The truth value of zero and one. An integer that does not fit into a machine word is no candidate. -/
def truthOfInteger (n : Int) : Except Problem Bool :=
  if n = 0 then .ok false
  else if n = 1 then .ok true
  else if -integerBound ≤ n && n < integerBound then .error .unreadableTruth
  else .error .notTruth

def Value.toTruth : Value → Except Problem Bool
  | .bool b => .ok b
  | .int n => truthOfInteger n
  | .real x =>
    match integerOfReal x with
    | .ok n => truthOfInteger n
    | .error _ => .error .notTruth
  | .text s =>
    match readTruth s with
    | some b => .ok b
    | none => .error .unreadableTruth
  | _ => .error .notTruth

/-! ## Fields -/

def Value.toText : Value → Except Problem String
  | .text s => .ok s
  | _ => .error .notText

/-- A field that may be absent. -/
def optionalField (members : List (String × Value)) (name : String) (default : α)
    (check : Value → Checked α) : Checked α :=
  match lookup name members with
  | some value => under (.field name) (check value)
  | none => .ok default

/-- A field that has to be there. -/
def requiredField (members : List (String × Value)) (name : String)
    (check : Value → Checked α) : Checked α :=
  match lookup name members with
  | some value => under (.field name) (check value)
  | none => under (.field name) (problem .missing)

/-- A check of one value without parts. -/
def scalar (read : Value → Except Problem α) (value : Value) : Checked α :=
  (read value).mapError fun p => [⟨[], p⟩]

def checkItems (check : Value → Checked α) (position : Nat) : List Value → Checked (List α)
  | [] => .ok []
  | item :: rest =>
    (both (under (.item position) (check item)) (checkItems check (position + 1) rest)).map
      fun (first, others) => first :: others

/-- A list whose items all pass a check. -/
def listOf (check : Value → Checked α) : Value → Checked (List α)
  | .array items => checkItems check 0 items
  | _ => problem .notList

end ProjectGauge.Json
