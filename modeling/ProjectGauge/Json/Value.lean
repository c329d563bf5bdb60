import ProjectGauge.Number.Binary64

/-!
# JSON values

Integers are exact and of any size; numbers with a fraction or an exponent are binary64. The
members of an object stand in the order in which their names were first seen. A text is made of
characters, so that it has no surrogate without a partner; see `Text.joinPairs` for what the reader
makes of one.
-/

namespace ProjectGauge.Json

/-- A JSON value. -/
inductive Value where
  | null
  | bool (b : Bool)
  | int (n : Int)
  | real (x : Binary64)
  | text (s : String)
  | array (items : List Value)
  | object (members : List (String × Value))
  deriving Inhabited

/-- The member of a name. -/
def lookup (name : String) : List (String × α) → Option α
  | [] => none
  | (key, value) :: rest => if key = name then some value else lookup name rest

/-- The members with one of them set: a name that is known keeps its place and takes the new
value, a new name goes to the end. -/
def put (name : String) (value : α) : List (String × α) → List (String × α)
  | [] => [(name, value)]
  | (key, old) :: rest =>
    if key = name then (key, value) :: rest else (key, old) :: put name value rest

/-- The members with a later table laid over them. -/
def merge (base later : List (String × α)) : List (String × α) :=
  later.foldl (fun members member => put member.1 member.2 members) base

mutual

/-- How many values stand inside one another at most, the outermost one included. -/
def Value.height : Value → Nat
  | .array items => heightOfItems items + 1
  | .object members => heightOfMembers members + 1
  | _ => 1

def heightOfItems : List Value → Nat
  | [] => 0
  | item :: rest => max item.height (heightOfItems rest)

def heightOfMembers : List (String × Value) → Nat
  | [] => 0
  | (_, value) :: rest => max value.height (heightOfMembers rest)

end

/-- A value that counts as absent where a section is optional. -/
def Value.isEmpty : Value → Bool
  | .null => true
  | .bool b => !b
  | .int n => n == 0
  | .real x => x.isZero
  | .text s => s.isEmpty
  | .array items => items.isEmpty
  | .object members => members.isEmpty

end ProjectGauge.Json
