import ProjectGauge.Files.Path

/-!
# The environment of a run

A run has variables, and accounts with home directories. A path that starts with a tilde starts in a
home directory: a lone tilde stands for that of the run, a tilde with a name for that of an account.

* `Environment.given?` gives the variables that count.
* `Environment.expandHome` replaces the tilde of a path.
-/

namespace ProjectGauge

open Files

/-- The variables that are set, the home directories of all accounts, and that of the account which the
run belongs to. -/
structure Environment where
  bindings : List (String × String)
  accounts : List (String × String)
  accountHome : String

/-- Why there is no home directory. -/
inductive HomeError where
  | unknown
  /-- The name of the account holds a null character. -/
  | nullCharacter
  deriving DecidableEq

def HomeError.message : HomeError → String
  | .unknown => "Could not determine home directory."
  | .nullCharacter => "embedded null byte"

/-- The tilde in front of the name of an account. -/
def tilde : Char := '~'

/-- The name of the variable with the home directory of a run. -/
def homeVariable : String := "HOME"

namespace Environment

/-- The value of a variable that is set to more than the empty text. -/
def given? (environment : Environment) (name : String) : Option String :=
  (environment.bindings.lookup name).filter fun value => !value.isEmpty

/-- The home directory of the run: what its variable is set to, or that of its account. -/
def ownHome (environment : Environment) : String :=
  (environment.bindings.lookup homeVariable).getD environment.accountHome

/-- A text without the slashes at its end; of a text of slashes only, one stays. -/
def dropFinalSlashes (text : List Char) : List Char :=
  let kept := (text.reverse.dropWhile (· == '/')).reverse
  if kept.isEmpty then ['/'] else kept

/-- The home directory for the name behind a tilde. -/
def homeOf (environment : Environment) (account : List Char) : Except HomeError (List Char) := do
  let home ←
    if account.isEmpty then pure environment.ownHome
    else if account.contains '\x00' then throw .nullCharacter
    else
      match environment.accounts.lookup (String.ofList account) with
      | some home => pure home
      | none => throw .unknown
  let home := dropFinalSlashes home.toList
  if home.head? == some tilde then throw .unknown
  return home

/-- A path with its tilde replaced. -/
def expandHome (environment : Environment) (path : Path) : Except HomeError Path :=
  match path.anchor, path.names with
  | .here, (c :: account) :: names =>
    if c == tilde then do
      let home := Path.parse (← environment.homeOf account)
      return { home with names := home.names ++ names }
    else .ok path
  | _, _ => .ok path

end Environment
end ProjectGauge
