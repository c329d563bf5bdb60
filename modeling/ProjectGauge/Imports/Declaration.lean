import ProjectGauge.Text.Pattern
import ProjectGauge.Text.Blank
import ProjectGauge.Text.Word
import ProjectGauge.Usage.Reference

/-!
# Import declarations by their form

An import declaration is recognised without a parse where it starts a line: the word `import`, perhaps
the word `type`, perhaps a clause that ends with the word `from`, and a quoted specifier. The clause
consists of word characters, blanks and `* { } , $` only.
-/

namespace ProjectGauge.Imports

/-- A character of the clause between `import` and `from`. -/
def isClauseChar (c : Char) : Bool :=
  Text.isWord c || c == '*' || c == '\x7b' || c == '\x7d' || Text.isBlank c || c == ',' || c == '$'

/-- Spaces and tabs, which may stand in front of a declaration. -/
def isIndent (c : Char) : Bool :=
  c == ' ' || c == '\t'

/-- The word `type` in front of a clause. -/
def typeMarker : Text.Pattern :=
  .seq (.literal "type".toList) (.some Text.isBlank)

/-- A clause with the word `from` behind it. -/
def clause : Text.Pattern :=
  .seq (.few isClauseChar) <| .seq (.some Text.isBlank) <|
    .seq (.literal "from".toList) (.some Text.isBlank)

/-- A quoted specifier, whose text is kept. -/
def quotedSpecifier : Text.Pattern :=
  .seq (.one Usage.isQuote) (.seq (.capture (.some fun c => !Usage.isQuote c)) (.one Usage.isQuote))

/-- An import declaration at the start of a line. -/
def declaration : Text.Pattern :=
  .seq .lineStart <| .seq (.any isIndent) <| .seq (.literal "import".toList) <|
    .seq (.some Text.isBlank) <| .seq (.optional typeMarker) <|
      .seq (.optional clause) quotedSpecifier

/-- The specifiers of the import declarations that are recognised by their form. -/
def specifiersByForm (source : List Char) : List (List Char) :=
  (declaration.findAll source).map (·.captured)

end ProjectGauge.Imports
