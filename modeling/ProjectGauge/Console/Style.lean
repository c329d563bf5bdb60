import ProjectGauge.Console.Line
import ProjectGauge.Console.Style.Definition
import ProjectGauge.Console.Style.Literal

/-!
# Styled texts

A styled text has tags in square brackets: a definition starts a style and a definition behind a slash
ends it. A tag may have parameters behind an equals sign; a tag whose name starts with an at sign is a
handler, and its parameters are a literal. A backslash in front of a tag makes it plain text. On a
console without colours the tags just go away.

* `escape` makes a text that shows another one as it is.
* `plain` is what a styled text shows.
-/

namespace ProjectGauge.Console

/-- Why a styled text cannot be shown. -/
inductive StyleError where
  /-- A tag ends a style that has not been started. -/
  | unmatched (tag : List Char)
  /-- A tag ends the last style where there is none. -/
  | nothingToEnd
  /-- The parameters of a handler are no literal. -/
  | badParameters (parameters : List Char)
  /-- A component of a colour is no number. -/
  | noNumber (definition : List Char)
  deriving DecidableEq

def StyleError.message : StyleError → String
  | .unmatched tag => "closing tag " ++ String.ofList tag ++ " doesn't match any open tag"
  | .nothingToEnd => "closing tag [/] has nothing to close"
  | .badParameters parameters => "error parsing " ++ String.ofList parameters
  | .noNumber definition => "invalid component in " ++ String.ofList definition

/-! ## Tags -/

/-- A character that may stand behind the opening bracket of a tag. -/
def startsTag (c : Char) : Bool :=
  ('a' ≤ c && c ≤ 'z') || c == '#' || c == '/' || c == '@'

/-- The content of the tag at the start of a text. -/
def tagContent? : List Char → Option (List Char)
  | '[' :: c :: rest =>
    let content := rest.takeWhile fun d => d != '[' && d != ']'
    if startsTag c && (rest.drop content.length).head? == some ']' then some (c :: content) else none
  | _ => none

def tagOf (content : List Char) : List Char :=
  '[' :: content ++ [']']

/-- The number of backslashes at the start of a text. -/
def slashesOf (text : List Char) : Nat :=
  (text.takeWhile (· == '\\')).length

/-- A number of backslashes. -/
def backslashes (n : Nat) : List Char :=
  List.replicate n '\\'

/-- A piece of a styled text. -/
inductive Piece where
  | text (chars : List Char)
  /-- A tag with the backslashes in front of it. -/
  | tag (slashes : Nat) (content : List Char)
  deriving DecidableEq

/-- The piece of a text without tags, given backwards; an empty one is none. -/
def textPiece (backwards : List Char) : List Piece :=
  if backwards.isEmpty then [] else [.text backwards.reverse]

/-- The pieces of a text behind one without tags, given backwards. -/
def piecesBehind (before text : List Char) : List Piece :=
  match text with
  | [] => textPiece before
  | c :: rest =>
    let slashes := slashesOf (c :: rest)
    match tagContent? ((c :: rest).drop slashes) with
    | some content =>
      textPiece before ++
        .tag slashes content :: piecesBehind [] (rest.drop (slashes + content.length + 1))
    | none => piecesBehind (c :: before) rest
termination_by text.length

def pieces (text : List Char) : List Piece :=
  piecesBehind [] text

/-! ## Escaping -/

/-- The text that shows a piece as it is: a tag has a backslash in front of it, and the backslashes in
front of that are doubled. -/
def Piece.escaped : Piece → List Char
  | .text chars => chars
  | .tag slashes content => backslashes (2 * slashes + 1) ++ tagOf content

def endsWithSlash (text : List Char) : Bool :=
  slashesOf text.reverse == 1

/-- A styled text that shows a text, and that may have a tag behind it. -/
def escape (text : List Char) : List Char :=
  let escaped := (pieces text).flatMap Piece.escaped
  if endsWithSlash escaped then escaped ++ ['\\'] else escaped

/-! ## Following tags -/

/-- A tag: its name, and the parameters behind its equals sign if it has one. -/
structure Tag where
  name : List Char
  parameters : Option (List Char)

def Tag.ofContent (content : List Char) : Tag :=
  let name := content.takeWhile (· != '=')
  match content.drop name.length with
  | _ :: parameters => ⟨name, some parameters⟩
  | [] => ⟨name, none⟩

/-- The definition of the style that a tag starts. -/
def Tag.definition (tag : Tag) : List Char :=
  match tag.parameters with
  | some parameters => tag.name ++ ' ' :: parameters
  | none => tag.name

def Tag.isHandler (tag : Tag) : Bool :=
  tag.name.head? == some '@'

/-- The normal form of the name of a tag. -/
def normalName (name : List Char) : Except StyleError (List Char) :=
  (normalForm name).mapError fun _ => .noNumber name

/-- The definitions of the style that ends with a tag. A handler has none, but a literal. -/
def Tag.ended (tag : Tag) : Except StyleError (List (List Char)) :=
  if tag.isHandler then
    match tag.parameters with
    | some parameters =>
      if parameters.isEmpty || isLiteral (handlerParameters parameters) then .ok []
      else .error (.badParameters parameters)
    | none => .ok []
  else .ok [tag.definition]

/-- The last tag of a name that is open, and the others that are. -/
def splitOpened (name : List Char) (opened : List Tag) : Option (Tag × List Tag) :=
  (opened.find? fun tag => tag.name = name).map fun tag =>
    (tag, opened.eraseP fun tag => tag.name = name)

/-- The tags that are open behind a tag that ends one of them, and the definitions of what has ended. A
tag with a slash alone ends the last one. -/
def endStyle (opened : List Tag) (content name : List Char) :
    Except StyleError (List Tag × List (List Char)) := do
  if name.isEmpty then
    match opened with
    | [] => throw .nothingToEnd
    | tag :: others => return (others, ← tag.ended)
  else
    match splitOpened (← normalName name) opened with
    | none => throw (.unmatched (tagOf content))
    | some (tag, others) => return (others, ← tag.ended)

/-- The tags that are open behind a tag, and the definitions of what has ended with it. -/
def follow (opened : List Tag) (content : List Char) :
    Except StyleError (List Tag × List (List Char)) :=
  let tag := Tag.ofContent content
  match tag.name with
  | '/' :: name => endStyle opened content (Text.stripBlanks name)
  | name => (normalName name).map fun name => ({ tag with name } :: opened, [])

/-! ## Showing -/

/-- A text without the backslashes in front of opening brackets. -/
def dropEscapes : List Char → List Char
  | '\\' :: '[' :: rest => '[' :: dropEscapes rest
  | c :: rest => c :: dropEscapes rest
  | [] => []

/-- What a text without tags shows. -/
def showText (text : List Char) : List Char :=
  withEmoji (dropEscapes text)

/-- A number of backslashes makes a tag plain text: an odd number does. -/
def makesPlain (slashes : Nat) : Bool :=
  slashes % 2 == 1

/-- What pieces show behind the start of some styles, and the definitions of all styles in them. -/
def shown (opened : List Tag) : List Piece → Except StyleError (List Char × List (List Char))
  | [] => .ok ([], opened.map Tag.definition)
  | .text chars :: rest => do
    let (further, definitions) ← shown opened rest
    return (showText chars ++ further, definitions)
  | .tag slashes content :: rest => do
    let (front, opened, ended) ←
      if makesPlain slashes then pure (showText (tagOf content), opened, [])
      else (follow opened content).map fun (opened, ended) => ([], opened, ended)
    let (further, definitions) ← shown opened rest
    return (backslashes (slashes / 2) ++ front ++ further, ended ++ definitions)

/-- A definition has a colour with a component that is no number. -/
def lacksNumber (definition : List Char) : Bool :=
  match Style.ofText definition with
  | .error .noNumber => true
  | _ => false

def plain (text : List Char) : Except StyleError (List Char) := do
  let (shown, definitions) ← shown [] (pieces text)
  match definitions.find? lacksNumber with
  | some definition => throw (.noNumber definition)
  | none => return shown

/-- What a text shows between the tags of a style. Its own tags are escaped. -/
def within (style : String) (text : List Char) : List Char :=
  let styled := tagOf style.toList ++ escape text ++ tagOf ('/' :: style.toList)
  (plain styled).toOption.getD styled

/-- What an escaped text shows by itself. -/
def alone (text : List Char) : List Char :=
  (plain (escape text)).toOption.getD text

end ProjectGauge.Console
