import ProjectGauge.Console.Style.Colour
import ProjectGauge.Text.Blank

/-!
# Style definitions

A style is defined by words: effects, which a word in front may switch off, a colour, a colour of the
background, and the address of a link. A later word takes the place of an earlier one. Two definitions
of one style have the same normal form; words that define no style stay as they are, in lower case.

* `Style.ofWords` reads a definition.
* `normalForm` is the normal form of the words of a tag.
-/

namespace ProjectGauge.Console

/-! ## Effects -/

/-- What a style may switch on or off. -/
inductive Effect where
  | bold
  | dim
  | italic
  | underline
  | blink
  | fastBlink
  | reverse
  | conceal
  | strike
  | doubleUnderline
  | framed
  | encircle
  | overline
  deriving DecidableEq

/-- The words for an effect, its name being the first. -/
def Effect.words : Effect → List String
  | .bold => ["bold", "b"]
  | .dim => ["dim", "d"]
  | .italic => ["italic", "i"]
  | .underline => ["underline", "u"]
  | .blink => ["blink"]
  | .fastBlink => ["blink2"]
  | .reverse => ["reverse", "r"]
  | .conceal => ["conceal", "c"]
  | .strike => ["strike", "s"]
  | .doubleUnderline => ["underline2", "uu"]
  | .framed => ["frame"]
  | .encircle => ["encircle"]
  | .overline => ["overline", "o"]

/-- All effects, in the order in which a style lists them. -/
def Effect.all : List Effect :=
  [.bold, .dim, .italic, .underline, .blink, .fastBlink, .reverse, .conceal, .strike,
    .doubleUnderline, .framed, .encircle, .overline]

def Effect.ofWord? (word : List Char) : Option Effect :=
  Effect.all.find? fun effect => (effect.words.map String.toList).contains word

def Effect.name (effect : Effect) : List Char :=
  (effect.words.headD "").toList

/-! ## Styles -/

/-- A style. -/
structure Style where
  /-- The effects that are switched, the last switch being the first. -/
  switches : List (Effect × Bool)
  colour : Option (List Char)
  background : Option (List Char)
  link : Option (List Char)

/-- Why words define no style. -/
inductive DefinitionError where
  | malformed
  /-- A component of a colour is no number. -/
  | noNumber
  deriving DecidableEq

namespace Style

/-- The style that leaves all as it is. -/
def plain : Style := ⟨[], none, none, none⟩

/-- The word in front of the colour of a background. -/
def backgroundWord : List Char := "on".toList

/-- The word in front of an effect that is switched off. -/
def offWord : List Char := "not".toList

/-- The word in front of the address of a link. -/
def linkWord : List Char := "link".toList

/-- The name of the style that leaves all as it is. -/
def plainWord : List Char := "none".toList

def colourOf (word : List Char) : Except DefinitionError (List Char) :=
  (readColour word).mapError fun
    | .unknown => .malformed
    | .noNumber => .noNumber

/-- A style with an effect or a colour behind it. -/
def withWord (style : Style) (word : List Char) : Except DefinitionError Style :=
  match Effect.ofWord? word with
  | some effect => .ok { style with switches := (effect, true) :: style.switches }
  | none => (colourOf word).map fun colour => { style with colour := some colour }

/-- A style with an effect switched off, whose word is in lower case. -/
def without (style : Style) (word : List Char) : Except DefinitionError Style :=
  match Effect.ofWord? word with
  | some effect => .ok { style with switches := (effect, false) :: style.switches }
  | none => .error .malformed

/-- A style with further words behind it. -/
def readWords (style : Style) : List (List Char) → Except DefinitionError Style
  | [] => .ok style
  | [word] =>
    let small := Text.lowerText word
    if [backgroundWord, offWord, linkWord].contains small then .error .malformed
    else style.withWord small
  | word :: next :: rest =>
    let small := Text.lowerText word
    if small = backgroundWord then
      match colourOf next with
      | .ok colour => readWords { style with background := some colour } rest
      | .error e => .error e
    else if small = offWord then
      match style.without next with
      | .ok style => readWords style rest
      | .error e => .error e
    else if small = linkWord then readWords { style with link := some next } rest
    else
      match style.withWord small with
      | .ok style => readWords style (next :: rest)
      | .error e => .error e

def wordsOf (text : List Char) : List (List Char) :=
  (Text.pieces Text.isBlank text).filter fun word => !word.isEmpty

def ofText (text : List Char) : Except DefinitionError Style :=
  if Text.stripBlanks text = plainWord then .ok plain else readWords plain (wordsOf text)

def effectWords (style : Style) (effect : Effect) : List (List Char) :=
  match style.switches.lookup effect with
  | some true => [effect.name]
  | some false => [offWord, effect.name]
  | none => []

/-- The words of a style in their order. -/
def words (style : Style) : List (List Char) :=
  Effect.all.flatMap style.effectWords ++ style.colour.toList ++
    (style.background.toList.flatMap fun colour => [backgroundWord, colour]) ++
    (style.link.toList.flatMap fun link => [linkWord, link])

/-- Words with spaces between them. -/
def joinWords : List (List Char) → List Char
  | [] => []
  | [word] => word
  | word :: rest => word ++ ' ' :: joinWords rest

/-- The definition of a style. -/
def text (style : Style) : List Char :=
  if style.words.isEmpty then plainWord else joinWords style.words

end Style

def normalForm (definition : List Char) : Except DefinitionError (List Char) :=
  match Style.ofText definition with
  | .ok style => .ok style.text
  | .error .malformed => .ok (Text.lowerText (Text.stripBlanks definition))
  | .error .noNumber => .error .noNumber

end ProjectGauge.Console
