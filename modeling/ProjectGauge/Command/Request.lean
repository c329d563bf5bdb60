import ProjectGauge.Command.Options
import ProjectGauge.Text.Numeral

/-!
# Requests

A command line may start with options that hold for every command. The first word behind them names
the command, and the words behind that belong to it. Help is asked for by an option of its own.

* `Command.read` reads the words of a command.
-/

namespace ProjectGauge

/-- What is done with the stored directories. -/
inductive Command where
  | add (path : Word)
  | remove (path : Word)
  | list
  | analyze (top : Nat)
  | version
  deriving DecidableEq

/-- The name of a command. -/
inductive Verb where
  | add
  | remove
  | list
  | analyze
  | version
  deriving DecidableEq

def Verb.word : Verb → String
  | .add => "add"
  | .remove => "remove"
  | .list => "list"
  | .analyze => "analyze"
  | .version => "version"

def Verb.all : List Verb := [.add, .remove, .list, .analyze, .version]

def Verb.ofWord? (word : Word) : Option Verb :=
  Verb.all.find? fun verb => verb.word.toList = word

/-! ## Options -/

def helpForm : OptionForm := ⟨"help", none, false⟩

def storeFileForm : OptionForm := ⟨"config", some 'c', true⟩

/-- The option that asks for more notes. -/
def verboseForm : OptionForm := ⟨"verbose", some 'V', false⟩

/-- The option that says how many package scores are shown. -/
def topForm : OptionForm := ⟨"top", some 't', true⟩

/-- The options in front of the command. -/
def sharedForms : List OptionForm := [storeFileForm, verboseForm, helpForm]

/-- The package scores that are shown if nothing is said. -/
def standardTop : Nat := 10

/-- The options of a command. -/
def Verb.forms : Verb → List OptionForm
  | .analyze => [topForm, helpForm]
  | _ => [helpForm]

/-- A positive number of package scores. -/
def readTop (value : Word) : Except UsageError Nat :=
  match Text.readInteger value with
  | .ok n => if 1 ≤ n then .ok n.toNat else .error (.notACount value)
  | .error _ => .error (.notACount value)

/-- The number of package scores that options ask for. -/
def topOf (options : Options) : Except UsageError Nat :=
  match options.value? topForm.name with
  | some value => readTop value
  | none => .ok standardTop

namespace Command

def onlyPath : List Word → Except UsageError Word
  | [] => .error (.noArgument "PATH")
  | [path] => .ok path
  | _ => .error .furtherArguments

def nothingElse : List Word → Except UsageError Unit
  | [] => .ok ()
  | _ => .error .furtherArguments

def ofOptions (verb : Verb) (options : Options) : Except UsageError Command :=
  match verb with
  | .add => (onlyPath options.words).map .add
  | .remove => (onlyPath options.words).map .remove
  | .list => (nothingElse options.words).map fun _ => .list
  | .analyze => do
    let top ← topOf options
    nothingElse options.words
    return .analyze top
  | .version => (nothingElse options.words).map fun _ => .version

/-- The command of a verb with its words, or nothing if help is asked for. -/
def read (verb : Verb) (words : List Word) : Except UsageError (Option Command) := do
  let options ← Options.read verb.forms true words
  if options.has helpForm.name then return none
  return some (← ofOptions verb options)

end Command
end ProjectGauge
