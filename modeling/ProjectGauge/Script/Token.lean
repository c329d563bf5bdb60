import ProjectGauge.Text.Decimal

/-!
# Tokens of ECMAScript

A token is a word, a literal, a sign or the end of the text. Words with a fixed meaning are keywords
or constants, every other word is a name; a few names are keywords in strict code only.
-/

namespace ProjectGauge.Script

/-- What matters of a number. -/
structure Numeral where
  /-- It is written in octal digits behind a zero. -/
  isOctal : Bool
  /-- It is an integer of too many decimal digits to be written in a message. -/
  isLong : Bool
  deriving DecidableEq

/-- A token. -/
inductive Token where
  /-- The end of the text. -/
  | finish
  /-- A word that a program may choose. -/
  | name (word : String)
  /-- A word of the language. -/
  | keyword (word : String)
  /-- The word for a truth value or for no value. -/
  | constant (word : String)
  /-- A number. -/
  | numeral (number : Numeral)
  /-- A quoted text with its escapes resolved. -/
  | text (value : List Char)
  /-- A punctuator. -/
  | sign (symbol : String)
  /-- A piece of a template: whether it opens the template and whether it closes it. -/
  | template (opens closes : Bool)
  /-- A regular expression. -/
  | pattern
  /-- A word inside the angle brackets of a markup element. -/
  | tagWord
  deriving DecidableEq

/-- The words of the language. -/
def keywords : List String :=
  ["if", "in", "do", "var", "for", "new", "try", "let", "this", "else", "case", "void", "with",
    "enum", "while", "break", "catch", "throw", "const", "yield", "class", "super", "return",
    "typeof", "delete", "switch", "export", "import", "default", "finally", "extends", "function",
    "continue", "debugger", "instanceof"]

/-- The words that stand for a value. -/
def constants : List String :=
  ["true", "false", "null"]

/-- The words that strict code may not choose as names. -/
def strictWords : List String :=
  ["implements", "interface", "package", "private", "protected", "public", "static", "yield", "let"]

/-- The names that strict code may not bind. -/
def restrictedNames : List String :=
  ["eval", "arguments"]

namespace Token

def ofWord (word : String) : Token :=
  if keywords.contains word then keyword word
  else if constants.contains word then constant word
  else name word

/-- The token as strict code sees it. -/
def strict : Token → Token
  | name word => if strictWords.contains word then keyword word else name word
  | token => token

def word? : Token → Option String
  | name word => some word
  | keyword word => some word
  | constant word => some word
  | _ => none

/-- A token that may stand for a property: a word, a text, a number or the bracket of a computed
name. -/
def startsProperty : Token → Bool
  | name _ => true
  | keyword _ => true
  | constant _ => true
  | text _ => true
  | numeral _ => true
  | sign symbol => symbol == "["
  | _ => false

/-- The characters that a token stands for, as far as they can be taken for a sign. -/
def spells (symbol : String) : Token → Bool
  | sign other => other == symbol
  | text value => value == symbol.toList
  | _ => false

/-- A token that may start the operand of `yield`. -/
def startsOperand : Token → Bool
  | sign symbol =>
    ["[", "(", "\x7b", "+", "-", "!", "~", "++", "--", "/", "/=", "<"].contains symbol
  | keyword word =>
    ["class", "delete", "function", "let", "new", "super", "this", "typeof", "void",
      "yield"].contains word
  | _ => true

/-- A sign that assigns. -/
def isAssignment : Token → Bool
  | sign symbol =>
    ["=", "*=", "**=", "/=", "%=", "+=", "-=", "<<=", ">>=", ">>>=", "&=", "^=",
      "|="].contains symbol
  | _ => false

/-- An operator between two operands; `in` counts where a flag allows it. -/
def isBinary (allowIn : Bool) : Token → Bool
  | sign symbol =>
    ["||", "&&", "|", "^", "&", "==", "!=", "===", "!==", "<", ">", "<=", ">=", "<<", ">>", ">>>",
      "+", "-", "*", "/", "%"].contains symbol
  | keyword word => word == "instanceof" || (allowIn && word == "in")
  | _ => false

end Token

/-- Why a text is not read. -/
inductive Rejection where
  /-- The text does not follow the grammar. -/
  | grammar
  /-- The text does not follow the grammar at a number, which is too long for the message. -/
  | longNumeral
  /-- A template goes on where none has been opened. -/
  | unopenedTemplate
  /-- A numeric reference in an attribute names no character. -/
  | characterRange
  /-- A numeric reference in an attribute exceeds a machine word. -/
  | characterOverflow
  /-- A numeric reference in an attribute has more digits than are read. -/
  | characterDigits (count : Nat)
  /-- The steps granted to the parser are used up. -/
  | exhausted
  deriving DecidableEq

/-- The wording of a rejection. -/
def Rejection.message : Rejection → String
  | .grammar => "Unexpected token"
  | .longNumeral => Text.tooManyDigitsMessage
  | .unopenedTemplate => "Template literal must start with a template head"
  | .characterRange => "chr() arg not in range(0x110000)"
  | .characterOverflow => "Python int too large to convert to C int"
  | .characterDigits count => Text.digitLimitMessage count
  | .exhausted => "The text is nested too deeply"

/-- What is said about a token that the grammar does not expect. -/
def Token.objection : Token → Rejection
  | numeral number => if number.isLong then .longNumeral else .grammar
  | _ => .grammar

end ProjectGauge.Script
