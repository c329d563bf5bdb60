import ProjectGauge.Text.Pattern
import ProjectGauge.Text.Blank

/-!
# References to a package

A source text refers to a package by a `require` call or by a `from` clause whose quoted specifier is
the name of the package, or the name followed by a slash and a further path.
-/

namespace ProjectGauge.Usage

/-- The two quotation marks of specifiers. -/
def isQuote (c : Char) : Bool :=
  c == '\x27' || c == '\x22'

/-- A quoted specifier of a package or of a path inside it. -/
def specifier (package : List Char) : Text.Pattern :=
  .seq (.one isQuote) <| .seq (.literal package) <|
    .seq (.optional (.seq (.literal ['/']) (.some fun c => !isQuote c))) (.one isQuote)

/-- A call of `require` with a specifier of the package. -/
def requireCall (package : List Char) : Text.Pattern :=
  .seq (.literal "require(".toList) (.seq (specifier package) (.literal [')']))

/-- The word `from` with a specifier of the package behind blanks. -/
def fromClause (package : List Char) : Text.Pattern :=
  .seq (.literal "from".toList) (.seq (.some Text.isBlank) (specifier package))

/-- The texts of the `require` calls that refer to a package. -/
def requireReferences (package source : List Char) : List (List Char) :=
  ((requireCall package).findAll source).map (·.text)

/-- The texts of the `from` clauses that refer to a package. -/
def fromReferences (package source : List Char) : List (List Char) :=
  ((fromClause package).findAll source).map (·.text)

/-- The number of references to a package in a source text. -/
def countReferences (package source : List Char) : Nat :=
  (requireReferences package source).length + (fromReferences package source).length

end ProjectGauge.Usage
