import ProjectGauge.Environment.Home
import ProjectGauge.Console.Line

/-!
# Accounts

The accounts of a system are listed in a file with a line for each. A line has fields with colons
between them, of which the first is the name and the sixth the home directory.
-/

namespace ProjectGauge

/-- The account of a line with its home directory. -/
def account? (line : List Char) : Option (String × String) :=
  match Text.pieces (· == ':') line with
  | name :: _ :: _ :: _ :: _ :: home :: _ => some (String.ofList name, String.ofList home)
  | _ => none

def accountsIn (text : List Char) : List (String × String) :=
  (Console.linesOf text).filterMap account?

end ProjectGauge
