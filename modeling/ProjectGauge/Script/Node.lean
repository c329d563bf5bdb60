import ProjectGauge.Script.Token

/-!
# Syntax nodes

Of what has been parsed, a node keeps only what decides about the text behind it: names that may
become parameters, the form of an expression where the grammar asks for it, and the sources of import
declarations.

* `Node.boundNames` lists the names that a node binds where it becomes a parameter.
* `bindsTwice` tells whether a list of parameters is refused because of a repeated name.
-/

namespace ProjectGauge.Script

/-- A syntax node. -/
inductive Node where
  /-- A name. -/
  | name (word : String)
  /-- A quoted text. -/
  | text (value : List Char)
  /-- A prefix operator with its operand. -/
  | unary
  /-- A list or a table of parts. -/
  | parts (items : List Node)
  /-- A part that stands for the rest. -/
  | spread (item : Node)
  /-- A target with the value that it takes. -/
  | assignment (target value : Node)
  /-- A `yield`, which may have an operand. -/
  | yielded (hasOperand : Bool)
  /-- Expressions separated by commas. -/
  | sequence (items : List Node)
  /-- Parameters in front of an arrow. -/
  | parameters (items : List Node) (isAsync : Bool)
  /-- An import declaration. -/
  | importing (source : List Char)
  /-- Anything else. -/
  | other

namespace Node

def isName : Node → Bool
  | name _ => true
  | _ => false

def propertyName? : Node → Option (List Char)
  | name word => some word.toList
  | text value => some value
  | _ => none

mutual

/-- The names that a parameter binds. -/
def boundNames : Node → List String
  | name word => [word]
  | parts items => allBoundNames items
  | spread item => item.boundNames
  | assignment target _ => target.boundNames
  | _ => []

/-- The names that parameters bind, from left to right. -/
def allBoundNames : List Node → List String
  | [] => []
  | item :: rest => item.boundNames ++ allBoundNames rest

end

/-- A parameter that an arrow function may not have: a `yield` with an operand as the default, a bare
`yield`, and the name `await` in an async function. -/
def isRefusedParameter (isAsync : Bool) : Node → Bool
  | assignment _ (yielded hasOperand) => hasOperand
  | yielded _ => true
  | name word => isAsync && word == "await"
  | _ => false

/-- The parameters of an arrow function that a node stands for. -/
def arrowParameters? : Node → Option (List Node × Bool)
  | name word => some ([name word], false)
  | parameters items isAsync => some (items, isAsync)
  | _ => none

end Node

/-- The last objection to a list of names is that one of them is repeated. A repeated name is an
objection, and a name that may not be bound is one that takes the place of those before it. -/
def bindsTwice (names : List String) : Bool :=
  (names.foldl (fun (seen, repeated) name =>
    (name :: seen, seen.contains name || (repeated && !restrictedNames.contains name)))
    (([] : List String), false)).2

end ProjectGauge.Script
