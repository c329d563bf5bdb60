/-!
# Options

A command line is a list of words. A word that starts with a dash is an option: two dashes and a name,
or one dash and some letters. Some options have a value, which is the rest of their word or the next
word. Two dashes alone end the options.

* `Options.read` splits the options from the other words.
-/

namespace ProjectGauge

/-- A word of a command line. -/
abbrev Word := List Char

/-- An option: its name, its letter if it has one, and whether it has a value. -/
structure OptionForm where
  name : String
  letter : Option Char
  hasValue : Bool

/-- Why a command line makes no sense. -/
inductive UsageError where
  | noSuchOption (name : Word)
  | noValue (name : String)
  | needlessValue (name : String)
  | noSuchCommand (name : Word)
  | noArgument (name : String)
  | furtherArguments
  | notACount (value : Word)
  | notAFile (value : Word)
  deriving DecidableEq

def UsageError.message : UsageError → String
  | .noSuchOption name => "No such option: " ++ String.ofList name
  | .noValue name => "Option '--" ++ name ++ "' requires an argument."
  | .needlessValue name => "Option '--" ++ name ++ "' does not take a value."
  | .noSuchCommand name => "No such command '" ++ String.ofList name ++ "'."
  | .noArgument name => "Missing argument '" ++ name ++ "'."
  | .furtherArguments => "Got unexpected extra arguments."
  | .notACount value => "Invalid value: '" ++ String.ofList value ++ "' is not a valid count."
  | .notAFile value => "Invalid value: '" ++ String.ofList value ++ "' is not a valid path."

/-- The options and the other words of a command line. -/
structure Options where
  /-- The options that have no value. -/
  flags : List String
  /-- The options with their values. -/
  values : List (String × Word)
  words : List Word

namespace Options

/-- A command line with nothing in it. -/
def none : Options :=
  ⟨[], [], []⟩

/-- An option is given. -/
def has (options : Options) (name : String) : Bool :=
  options.flags.contains name

/-- The value that is given last. -/
def value? (options : Options) (name : String) : Option Word :=
  (options.values.reverse.lookup name)

/-- The options with one that has no value. -/
def addFlag (options : Options) (name : String) : Options :=
  { options with flags := options.flags ++ [name] }

def addValue (options : Options) (name : String) (value : Word) : Options :=
  { options with values := options.values ++ [(name, value)] }

/-- The options with further words behind them. -/
def addWords (options : Options) (words : List Word) : Options :=
  { options with words := options.words ++ words }

/-! ## One word -/

/-- A word ends with an option whose value is still to come. -/
abbrev Pending := Option String

/-- Two dashes. -/
def dashes : Word := ['-', '-']

/-- A word that starts with a dash and does not end with it. -/
def isOption : Word → Bool
  | '-' :: _ :: _ => true
  | _ => false

/-- The options behind a word with an option that is written out. -/
def readName (forms : List OptionForm) (word : Word) (options : Options) :
    Except UsageError (Options × Pending) :=
  let name := word.takeWhile (· != '=')
  match forms.find? fun form => dashes ++ form.name.toList = name with
  | .none => .error (.noSuchOption name)
  | some form =>
    match form.hasValue, word.drop name.length with
    | true, _ :: value => .ok (options.addValue form.name value, .none)
    | true, [] => .ok (options, some form.name)
    | false, _ :: _ => .error (.needlessValue form.name)
    | false, [] => .ok (options.addFlag form.name, .none)

/-- The options behind the letters of a word. What follows a letter with a value is its value. -/
def readLetters (forms : List OptionForm) : Word → Options → Except UsageError (Options × Pending)
  | [], options => .ok (options, .none)
  | c :: rest, options =>
    match forms.find? fun form => form.letter = some c with
    | .none => .error (.noSuchOption ['-', c])
    | some form =>
      if form.hasValue then
        if rest.isEmpty then .ok (options, some form.name)
        else .ok (options.addValue form.name rest, .none)
      else readLetters forms rest (options.addFlag form.name)

def readWord (forms : List OptionForm) (word : Word) (options : Options) :
    Except UsageError (Options × Pending) :=
  if dashes.isPrefixOf word then readName forms word options
  else readLetters forms (word.drop 1) options

/-! ## All words -/

/-- The options behind further words. Where `mixed` is false, the first word that is no option ends the
options. -/
def readFrom (forms : List OptionForm) (mixed : Bool) (options : Options) :
    List Word → Except UsageError Options
  | [] => .ok options
  | word :: rest =>
    if word = dashes then .ok (options.addWords rest)
    else if isOption word then
      match readWord forms word options with
      | .error e => .error e
      | .ok (options, .none) => readFrom forms mixed options rest
      | .ok (options, some name) =>
        match rest with
        | [] => .error (.noValue name)
        | value :: rest => readFrom forms mixed (options.addValue name value) rest
    else if mixed then readFrom forms mixed (options.addWords [word]) rest
    else .ok (options.addWords (word :: rest))

/-- The options and the other words of a command line. -/
def read (forms : List OptionForm) (mixed : Bool) (words : List Word) : Except UsageError Options :=
  readFrom forms mixed .none words

end Options
end ProjectGauge
