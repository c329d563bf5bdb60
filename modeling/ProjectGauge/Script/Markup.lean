import ProjectGauge.Script.State

/-!
# Markup elements

Inside the angle brackets of a markup element the text is cut by rules of its own: words may hold
hyphens, quoted texts may hold anything but their quotation mark, and braces enclose expressions. The
text between two elements is taken as it stands.

* `element` parses an element, `markup` an expression that is one.
-/

namespace ProjectGauge.Script

/-! ## References in attributes -/

/-- The digits of a numeric reference behind its mark, if all of them are digits and a semicolon ends
them. -/
def referenceDigits? (isDigit : Char → Bool) (text : List Char) : Option (List Char) :=
  let digits := text.takeWhile isDigit
  if !digits.isEmpty && (text.drop digits.length).head? == some ';' then some digits else none

/-- The number of characters up to a semicolon and with it, or of all characters. -/
def lengthToSemicolon (text : List Char) : Nat :=
  (text.takeWhile (· != ';')).length + 1

/-- The number of characters of a run of digits and the one behind it. -/
def lengthOfDigits (isDigit : Char → Bool) (text : List Char) : Nat :=
  (text.takeWhile isDigit).length + 1

/-- The number of characters that a reference takes behind its ampersand. -/
def referenceLength : List Char → Nat
  | '#' :: 'x' :: rest => lengthOfDigits isHexDigit rest + 2
  | '#' :: rest => lengthOfDigits Char.isDigit rest + 1
  | text => lengthToSemicolon text

/-- The code point that a reference names by its number. -/
def referenceCode? : List Char → Except Rejection (Option Nat)
  | '#' :: 'x' :: rest => .ok ((referenceDigits? isHexDigit rest).map (numeralValue 16))
  | '#' :: rest =>
    match referenceDigits? Char.isDigit rest with
    | some digits =>
      if Text.digitLimit < digits.length then .error (.characterDigits digits.length)
      else .ok (some (numeralValue 10 digits))
    | none => .ok none
  | _ => .ok none

/-- The integers of a machine word end below this one. -/
def wordLimit : Nat := 0x80000000

def checkCode (code : Nat) : Except Rejection Unit :=
  if wordLimit ≤ code then .error .characterOverflow
  else if lastCodePoint < code then .error .characterRange
  else .ok ()

/-- Checks the references of an attribute. A number of characters of the last one may still have to be
passed over. -/
def checkReferences : Nat → List Char → Except Rejection Unit
  | _, [] => .ok ()
  | pending + 1, _ :: rest => checkReferences pending rest
  | 0, c :: rest =>
    if c == '&' then do
      if let some code ← referenceCode? rest then checkCode code
      checkReferences (referenceLength rest) rest
    else checkReferences 0 rest

/-! ## Tokens -/

/-- A character that is a sign of its own inside angle brackets. -/
def isMarkupSign (c : Char) : Bool :=
  ['<', '>', '/', ':', '=', '\x7b', '\x7d'].contains c

/-- A character that continues a word inside angle brackets. -/
def isTagPart (c : Char) : Bool :=
  (Text.isIdentifierPart c && c != '\\') || c == '-'

/-- The token that starts at the place of the scanner inside angle brackets. -/
def Scanner.markupToken (scanner : Scanner) : Except Rejection (Token × Scanner) :=
  match scanner.place.rest with
  | [] => .ok (.finish, scanner)
  | c :: rest =>
    if isMarkupSign c then .ok (.sign (String.ofList [c]), scanner.goTo rest 0)
    else if c == '\x22' || c == '\x27' then do
      let value := rest.takeWhile (· != c)
      checkReferences 0 value
      .ok (.text value, scanner.goTo (rest.drop (value.length + 1)) 0)
    else if c == '.' then
      match rest with
      | '.' :: '.' :: rest => .ok (.sign "...", scanner.goTo rest 0)
      | _ => .ok (.sign ".", scanner.goTo rest 0)
    else if c == '\x60' then .ok (.template false false, scanner)
    else if Text.isIdentifierStart c && c != '\\' then
      .ok (.tagWord, scanner.goTo (rest.dropWhile isTagPart) 0)
    else
      match scanner.token with
      | some result => .ok result
      | none => .error .grammar

/-- Takes a token inside angle brackets. -/
def markupAdvance : Parse Token := do
  let state ← get
  let scanner := state.scanner.skipSpace false
  let (token, after) ← scanner.markupToken
  set { state with scanner := after, start := scanner.place }
  return token

/-- The next token inside angle brackets is a sign. -/
def markupNextIs (symbol : String) : Parse Bool := do
  let state ← get
  let (token, after) ← (state.scanner.skipSpace false).markupToken
  set { state with scanner := { after with place := state.scanner.place } }
  return token == .sign symbol

/-- Takes a sign inside angle brackets. -/
def markupExpect (symbol : String) : Parse Unit := do
  let token ← markupAdvance
  if token != .sign symbol then unexpected token

/-- Takes a sign inside angle brackets if it comes next. -/
def markupAccept (symbol : String) : Parse Bool := do
  let found ← markupNextIs symbol
  if found then markupExpect symbol
  return found

/-- Takes a word inside angle brackets. -/
def tagWord : Parse Unit := do
  let token ← markupAdvance
  if token != .tagWord then unexpected token

/-- The number of line breaks in a text. -/
def lineBreaks : List Char → Nat
  | [] => 0
  | c :: rest => linesEnded c rest + lineBreaks rest

/-- Takes the text up to a brace or an angle bracket. -/
def markupText : Parse Unit := do
  let state ← get
  let place := state.scanner.place
  let text := place.rest.takeWhile fun c => c != '\x7b' && c != '<'
  set { state with
    scanner := if text.isEmpty then state.scanner
      else state.scanner.goTo (place.rest.drop text.length) (lineBreaks text)
    start := place }

/-- The scanner has reached the end of the text. -/
def atEnd : Parse Bool :=
  return (← get).scanner.place.rest.isEmpty

/-! ## Elements -/

/-- An expression in braces behind its opening brace. -/
def enclosedExpression (g : Grammar) : Parse Unit := do
  let _ ← advance
  let _ ← g .assignment
  rewind
  markupExpect "\x7d"

/-- The name of an element: words with points between them, or two words with a colon. -/
def elementName : Parse Unit := do
  tagWord
  if ← markupAccept ":" then tagWord
  else
    let _ ← manyUntil (return !(← markupNextIs ".")) do
      markupExpect "."
      tagWord

def attributeValue (g : Grammar) : Parse Unit := do
  if ← markupAccept "\x7b" then enclosedExpression g
  else if ← markupNextIs "<" then let _ ← g .element
  else
    match ← markupAdvance with
    | .text _ => return
    | token => unexpected token

/-- An attribute: a name that may have a value, or an expression that stands for many. -/
def tagAttribute (g : Grammar) : Parse Unit := do
  if ← markupAccept "\x7b" then
    markupExpect "..."
    enclosedExpression g
  else
    tagWord
    if ← markupAccept ":" then tagWord
    if ← markupAccept "=" then attributeValue g

/-- A tag behind its opening bracket. The result tells whether an element is open behind it. -/
def tag (g : Grammar) : Parse Bool := do
  elementName
  let _ ← manyUntil (return (← markupNextIs "/") || (← markupNextIs ">")) (tagAttribute g)
  let isClosed ← markupAccept "/"
  markupExpect ">"
  return !isClosed

/-- A closing tag behind its bracket and slash. -/
def closingTag : Parse Unit := do
  elementName
  markupExpect ">"

/-- The texts and the expressions in front of the next tag. -/
def content (g : Grammar) : Parse Unit :=
  loop (fun _ => do
    if ← atEnd then return .inr ()
    markupText
    if (← get).scanner.place.rest.head? == some '\x7b' then
      markupExpect "\x7b"
      if !(← markupAccept "\x7d") then enclosedExpression g
      return .inl ()
    else return .inr ()) ()

/-- The content of the elements that are open, up to the closing tag of the first of them or the end
of the text. -/
def openElements (g : Grammar) : Parse Unit :=
  loop (fun inner => do
    if ← atEnd then return .inr ()
    content g
    markupExpect "<"
    if ← markupAccept "/" then
      closingTag
      match inner with
      | 0 => return .inr ()
      | outer + 1 => return .inl outer
    else return .inl (if ← tag g then inner + 1 else inner)) 0

def element (g : Grammar) : Parse Node := do
  markupExpect "<"
  if ← tag g then openElements g
  return .other

/-- An expression that is an element. -/
def markup (g : Grammar) : Parse Node := do
  rewind
  let node ← element g
  let _ ← advance
  return node

end ProjectGauge.Script
