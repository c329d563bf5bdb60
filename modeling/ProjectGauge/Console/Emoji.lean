import ProjectGauge.Console.Emoji.Table
import ProjectGauge.Text.Blank
import ProjectGauge.Text.LowerCase
import ProjectGauge.Text.Pieces

/-!
# Emoji

A name between two colons stands for an emoji. The name is in any case, and behind a hyphen it may say
whether the emoji is a picture or a plain character. A name that is not known stays as it is, with both
of its colons.

* `withEmoji` is a text with emoji in the place of their names.
-/

namespace ProjectGauge.Console

/-- The emoji of a name among words that are names and emoji in turn. -/
def findEmoji (name : List Char) : List (List Char) → Option (List Char)
  | key :: emoji :: rest => if key = name then some emoji else findEmoji name rest
  | _ => none

/-- The emoji of a name in lower case. -/
def emojiOf? (name : List Char) : Option (List Char) :=
  emojiLines.findSome? fun line => findEmoji name (Text.pieces (· == ' ') line.toList)

/-! ## Variants -/

/-- How an emoji looks. -/
inductive EmojiVariant where
  | plain
  | picture
  deriving DecidableEq

/-- The word behind the hyphen of a name. -/
def EmojiVariant.word : EmojiVariant → String
  | .plain => "text"
  | .picture => "emoji"

def EmojiVariant.selector : EmojiVariant → Char
  | .plain => '\ufe0e'
  | .picture => '\ufe0f'

def EmojiVariant.all : List EmojiVariant := [.plain, .picture]

/-- The end of a name that asks for a variant. -/
def EmojiVariant.ending (variant : EmojiVariant) : List Char :=
  '-' :: variant.word.toList

/-- A name without its variant, and the variant. -/
def splitVariant (name : List Char) : List Char × Option EmojiVariant :=
  match EmojiVariant.all.find? fun variant => variant.ending.isSuffixOf name with
  | some variant => (name.take (name.length - variant.ending.length), some variant)
  | none => (name, none)

/-! ## Replacing -/

/-- What is shown for a name between two colons. -/
def showEmoji (name : List Char) : List Char :=
  let (plainName, variant) := splitVariant name
  match emojiOf? (Text.lowerText plainName) with
  | some emoji => emoji ++ variant.toList.map EmojiVariant.selector
  | none => ':' :: name ++ [':']

/-- The name in front of the next colon, if there is one behind no blank. -/
def nameToColon? (text : List Char) : Option (List Char) :=
  let name := text.takeWhile fun c => c != ':' && !Text.isBlank c
  if (text.drop name.length).head? == some ':' then some name else none

/-- A text with emoji in the place of their names. -/
def withEmoji (text : List Char) : List Char :=
  match text with
  | [] => []
  | c :: rest =>
    match if c == ':' then nameToColon? rest else none with
    | some name => showEmoji name ++ withEmoji (rest.drop (name.length + 1))
    | none => c :: withEmoji rest
termination_by text.length

end ProjectGauge.Console
