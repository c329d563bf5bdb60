/-!
# Backtracking patterns

A pattern describes pieces of text from left to right. Where it leaves a choice, the alternatives
are tried in a fixed order and the first that lets the rest of the pattern match is taken: a greedy
run takes as many characters as it can and gives them back one by one, a lazy run takes as few as it
can, and an optional part is tried before it is left out.

* `Pattern.attempt` runs a pattern with a continuation that decides whether an end is acceptable.
* `Pattern.findAll` lists the matches that a scan from left to right meets, without overlaps.
-/

namespace ProjectGauge.Text

/-- A pattern. -/
inductive Pattern where
  /-- The place after a line feed or at the start of the text. -/
  | lineStart
  /-- One character of a class. -/
  | one (member : Char → Bool)
  /-- These characters in a row. -/
  | literal (text : List Char)
  /-- Any number of characters of a class, as many as possible first. -/
  | any (member : Char → Bool)
  /-- At least one character of a class, as many as possible first. -/
  | some (member : Char → Bool)
  /-- At least one character of a class, as few as possible first. -/
  | few (member : Char → Bool)
  /-- A part that is tried first and may be left out. -/
  | optional (part : Pattern)
  /-- A part whose text is kept. -/
  | capture (part : Pattern)
  /-- One part behind another. -/
  | seq (first second : Pattern)

/-- A place in a text during a match: whether a line starts here, how many characters the match has
taken, the text that remains, and the text that was captured. -/
structure Place where
  lineStart : Bool
  taken : Nat
  rest : List Char
  captured : List Char

namespace Place

/-- The place behind a character that stands in front of the given rest. -/
def advance (place : Place) (c : Char) (rest : List Char) : Place :=
  { place with lineStart := c == '\n', taken := place.taken + 1, rest := rest }

end Place

namespace Pattern

def attemptLiteral (next : Place → Option β) : List Char → Place → Option β
  | [], place => next place
  | c :: text, place =>
    match place.rest with
    | d :: rest => if c == d then attemptLiteral next text (place.advance d rest) else none
    | [] => none

/-- Any number of characters of a class, the longest run first. -/
def attemptAny (member : Char → Bool) (next : Place → Option β) : List Char → Place → Option β
  | [], place => next place
  | c :: rest, place =>
    if member c then
      match attemptAny member next rest (place.advance c rest) with
      | .some found => .some found
      | none => next place
    else next place

/-- Any number of characters of a class, the shortest run first. -/
def attemptFew (member : Char → Bool) (next : Place → Option β) : List Char → Place → Option β
  | [], place => next place
  | c :: rest, place =>
    match next place with
    | .some found => .some found
    | none => if member c then attemptFew member next rest (place.advance c rest) else none

/-- The first acceptable end of a pattern from a place on. -/
def attempt : Pattern → (Place → Option β) → Place → Option β
  | lineStart, next, place => if place.lineStart then next place else none
  | one member, next, place =>
    match place.rest with
    | c :: rest => if member c then next (place.advance c rest) else none
    | [] => none
  | literal text, next, place => attemptLiteral next text place
  | any member, next, place => attemptAny member next place.rest place
  | some member, next, place =>
    match place.rest with
    | c :: rest => if member c then attemptAny member next rest (place.advance c rest) else none
    | [] => none
  | few member, next, place =>
    match place.rest with
    | c :: rest => if member c then attemptFew member next rest (place.advance c rest) else none
    | [] => none
  | optional part, next, place =>
    match part.attempt next place with
    | .some found => .some found
    | none => next place
  | capture part, next, place =>
    part.attempt (fun stop => next { stop with captured := place.rest.take (stop.taken - place.taken) })
      place
  | seq first second, next, place => first.attempt (second.attempt next) place

/-- A match: its text and the captured part of it. -/
structure Match where
  text : List Char
  captured : List Char
  deriving DecidableEq

/-- The match of a pattern at the start of a text. -/
def matchAt? (pattern : Pattern) (fresh : Bool) (text : List Char) : Option Match :=
  pattern.attempt (fun stop => .some ⟨text.take stop.taken, stop.captured⟩)
    ⟨fresh, 0, text, []⟩

/-- The matches of a scan that still has to pass over a number of matched characters. -/
def scan (pattern : Pattern) : Nat → Bool → List Char → List Match
  | _, _, [] => []
  | skip + 1, _, c :: rest => scan pattern skip (c == '\n') rest
  | 0, fresh, c :: rest =>
    match pattern.matchAt? fresh (c :: rest) with
    | .some found => found :: scan pattern (found.text.length - 1) (c == '\n') rest
    | none => scan pattern 0 (c == '\n') rest

/-- The matches of a text from left to right. Each starts behind the end of the one before. -/
def findAll (pattern : Pattern) (text : List Char) : List Match :=
  scan pattern 0 true text

end Pattern
end ProjectGauge.Text
