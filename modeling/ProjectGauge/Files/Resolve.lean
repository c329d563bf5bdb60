import ProjectGauge.Files.System

/-!
# Canonical places

The canonical place of a path is free of links and of names that stand for directories above. Names
that lead to nothing stay as they are, and two points behind them take them away. Unlike a walk, this
has no limit on the number of links: only links that lead back to themselves are an error.

* `System.resolve` gives the canonical place of a path.
-/

namespace ProjectGauge.Files

/-! ## Spots -/

/-- Where a way without links starts: at the root, or a number of directories above the working
directory. -/
inductive Base where
  | root
  | above (steps : Nat)
  deriving DecidableEq

/-- The end of a way without links. Two ways may end at one place, and are told apart. -/
structure Spot where
  base : Base
  names : List Name
  deriving DecidableEq

namespace Spot

def atRoot : Spot := ⟨.root, []⟩

/-- The working directory. -/
def atHere : Spot := ⟨.above 0, []⟩

def text (spot : Spot) : List Char :=
  match spot.base with
  | .root => '/' :: joined ['/'] spot.names
  | .above steps => joined ['/'] (List.replicate steps parent ++ spot.names)

def child (spot : Spot) (name : Name) : Spot :=
  { spot with names := spot.names ++ [name] }

/-- The directory above, which is that of the last name whatever this stands for. -/
def up (spot : Spot) : Spot :=
  match spot.names, spot.base with
  | [], .root => spot
  | [], .above steps => ⟨.above (steps + 1), []⟩
  | names, base => ⟨base, names.dropLast⟩

/-- The spot at which a text starts that stands in a directory. -/
def startOf (spot : Spot) (text : List Char) : Spot :=
  if text.head? == some '/' then atRoot else spot

/-- The names of a spot from the root. -/
def place (here : List Name) (spot : Spot) : List Name :=
  match spot.base with
  | .root => spot.names
  | .above steps => here.take (here.length - steps) ++ spot.names

end Spot

/-- The links that have been met, with the spots that they lead to; those that are still being
followed have none. -/
abbrev Trail := List (Spot × Option Spot)

/-- The spot that a link of a trail leads to. -/
def Trail.find? (spot : Spot) : Trail → Option (Option Spot)
  | [] => none
  | (other, found) :: rest => if other = spot then some found else Trail.find? spot rest

/-- The end of a way: a spot with the trail behind it, or the text that is left where a loop has been
noticed. -/
inductive Resolution where
  | found (spot : Spot) (trail : Trail)
  | loop (text : List Char)

/-- A text behind another one. A text that starts at the root stands alone. -/
def joinTexts (front back : List Char) : List Char :=
  if back.head? == some '/' then back
  else if front.isEmpty || front.getLast? == some '/' then front ++ back
  else front ++ '/' :: back

namespace System

/-! ## Following links -/

def linkAt? (system : System) (spot : Spot) : Option (List Char) :=
  if pathLimit ≤ Text.Utf8.byteLength spot.text then none
  else (system.at? (spot.place system.here)).bind Node.target?

/-- The end of a way along names from a spot on; `follow` goes along the target of a link. -/
def resolveStep (system : System)
    (follow : Spot → List Char → Trail → Except Error Resolution) :
    Spot → List Name → Trail → Except Error Resolution
  | spot, [], trail => .ok (.found spot trail)
  | spot, name :: rest, trail =>
    if name.isEmpty || name = self then system.resolveStep follow spot rest trail
    else if name = parent then system.resolveStep follow spot.up rest trail
    else if name.contains '\x00' then .error .nullCharacter
    else
      let next := spot.child name
      match system.linkAt? next with
      | none => system.resolveStep follow next rest trail
      | some target =>
        match trail.find? next with
        | some (some found) => system.resolveStep follow found rest trail
        | some none => .ok (.loop (joinTexts next.text (joined ['/'] rest)))
        | none =>
          match follow spot target ((next, none) :: trail) with
          | .error e => .error e
          | .ok (.loop text) => .ok (.loop (joinTexts text (joined ['/'] rest)))
          | .ok (.found behind trail) =>
            system.resolveStep follow behind rest ((next, some behind) :: trail)

/-- The end of a way along a text when links may be followed to a depth. -/
def resolveFrom (system : System) : Nat → Spot → List Char → Trail → Except Error Resolution
  | 0, spot, text, _ => .ok (.loop (joinTexts spot.text text))
  | depth + 1, spot, text, trail =>
    system.resolveStep (system.resolveFrom depth) (spot.startOf text) (splitSlashes text) trail

/-- The depth to which links lead without a loop. Each link that is being followed has another spot. -/
def linkDepth (system : System) : Nat :=
  system.root.linkCount * (system.here.length + 2) + pathLimit

/-! ## Places -/

/-- Names without those for directories above, which are taken away together with the names in front of
them. -/
def collapse (names : List Name) : List Name :=
  names.foldl (fun above name =>
    if name = self then above else if name = parent then above.dropLast else above ++ [name]) []

/-- The path from the root that a text stands for if no name in it is a link. -/
def plainPath (system : System) (text : List Char) : Path :=
  let whole := joinTexts (Path.ofNames system.here).text text
  ⟨anchorOf whole, collapse (namesIn whole)⟩

/-- The path at the end of a way. -/
def pathOf (system : System) : Resolution → Path
  | .found spot _ => .ofNames (spot.place system.here)
  | .loop text => system.plainPath text

/-- The canonical place of a path. A loop is an error where the system would refuse to walk it. -/
def resolve (system : System) (path : Path) : Except Error Path := do
  let place := system.pathOf (← system.resolveFrom system.linkDepth .atHere path.text [])
  match system.walk .existing place with
  | .error (.refused .tooManyLinks text) => throw (.linkLoop text)
  | .error .nullCharacter => throw .nullCharacter
  | _ => return place

end System
end ProjectGauge.Files
