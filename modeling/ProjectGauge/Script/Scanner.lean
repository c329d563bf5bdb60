import ProjectGauge.Script.Token
import ProjectGauge.Script.Literal

/-!
# The scanner

The scanner cuts a text into tokens. It keeps the braces that are open, because a closing brace goes
on with a template where the innermost open one belongs to a substitution.

* `Scanner.skipSpace` moves to the start of the next token.
* `Scanner.token` reads the token that starts at the place of the scanner.
-/

namespace ProjectGauge.Script

/-- An open brace. -/
inductive Brace where
  | plain
  | substitution
  deriving DecidableEq

/-- A place in a text: the text from there on, the number of the line, and whether it is the start of
the whole text. -/
structure Place where
  rest : List Char
  line : Nat
  first : Bool

/-- A place in a text with the braces that are open there. -/
structure Scanner where
  place : Place
  braces : List Brace

/-- The signs, longer ones first. -/
def signs : List String :=
  [">>>=", "...", "===", "!==", ">>>", "<<=", ">>=", "**=", "&&", "||", "==", "!=", "+=", "-=", "*=",
    "/=", "++", "--", "<<", ">>", "&=", "|=", "^=", "%=", "<=", ">=", "=>", "**", "(", ")", "\x7b",
    "\x7d", "[", "]", ";", ",", ".", ":", "?", "~", "<", ">", "=", "!", "+", "-", "*", "%", "&", "|",
    "^", "/"]

/-- The longest sign at the front of a text and the text behind it. -/
def readSign (text : List Char) : Option (String × List Char) :=
  signs.findSome? fun sign =>
    if sign.toList.isPrefixOf text then some (sign, text.drop sign.length) else none

namespace Scanner

/-- The scanner behind the space at its place. -/
def skipSpace (html : Bool) (scanner : Scanner) : Scanner :=
  let (rest, line) := skip html (.blank scanner.place.first) scanner.place.line scanner.place.rest
  { scanner with
    place := ⟨rest, line, scanner.place.first && rest.length == scanner.place.rest.length⟩ }

/-- The scanner at a later place. -/
def goTo (scanner : Scanner) (rest : List Char) (lines : Nat) : Scanner :=
  { scanner with place := ⟨rest, scanner.place.line + lines, false⟩ }

/-- A sign. A brace is opened or closed with it. -/
def readSign (scanner : Scanner) : Option (Token × Scanner) :=
  (Script.readSign scanner.place.rest).map fun (symbol, rest) =>
    let scanner := scanner.goTo rest 0
    (.sign symbol,
      if symbol == "\x7b" then { scanner with braces := .plain :: scanner.braces }
      else if symbol == "\x7d" then { scanner with braces := scanner.braces.tail }
      else scanner)

/-- A piece of a template. A piece that ends with a substitution opens its brace, and one that does
not open the template closes the brace of the substitution in front of it. -/
def readTemplate (opens : Bool) (rest : List Char) (scanner : Scanner) : Option (Token × Scanner) :=
  (Script.readTemplate 0 0 rest).map fun (closes, rest, lines) =>
    let braces := if closes then scanner.braces else .substitution :: scanner.braces
    (.template opens closes,
      { scanner.goTo rest lines with braces := if opens then braces else braces.tail })

/-- The token that starts at the place of the scanner. -/
def token (scanner : Scanner) : Option (Token × Scanner) :=
  match scanner.place.rest with
  | [] => some (.finish, scanner)
  | c :: rest =>
    if Text.isIdentifierStart c then
      (readWord (c :: rest)).map fun (word, rest) =>
        (.ofWord (String.ofList word), scanner.goTo rest 0)
    else if c == '\x22' || c == '\x27' then
      (readText c 0 0 [] rest).map fun (value, rest, lines) => (.text value, scanner.goTo rest lines)
    else if c.isDigit || (c == '.' && rest.head?.any Char.isDigit) then
      (readNumeral (c :: rest)).map fun (number, rest) => (.numeral number, scanner.goTo rest 0)
    else if c == '\x60' then scanner.readTemplate true rest
    else if c == '\x7d' && scanner.braces.head? == some .substitution then
      scanner.readTemplate false rest
    else scanner.readSign

end Scanner
end ProjectGauge.Script
