import ProjectGauge.Script.Function

/-!
# Classes

A class has methods only. It has at most one constructor, which is a plain method, and no static
property named `prototype`.
-/

namespace ProjectGauge.Script

/-- The kinds of methods that a class tells apart. -/
inductive MethodKind where
  | plain
  | generator
  | accessor
  deriving DecidableEq

/-- What has been read of a method in front of its parameters. -/
structure MethodHead where
  /-- Its name; a generator has none yet. -/
  name : Option Node
  /-- The token that decides about its kind. -/
  token : Token
  isStatic : Bool
  isAsync : Bool
  /-- Its name is computed. -/
  isComputed : Bool

/-- The mark of a generator or a name, with the token that started it. -/
def markOrName (g : Grammar) : Parse (Option Node × Token × Bool) := do
  let token := (← get).next
  if ← accept "*" then return (none, token, false)
  else
    let isComputed ← nextIs "["
    return (some (← propertyName g), token, isComputed)

/-- The front of a method up to its kind. The word `static` counts where a property follows it, and
the word `async` where a property follows it on its line. -/
def methodHead (g : Grammar) : Parse MethodHead := do
  let (name, token, isComputed) ← markOrName g
  let next := (← get).next
  let isStatic := (name.bind fun name => match name with
    | .name word => some word
    | _ => none) == some "static" && (next.startsProperty || next == .sign "*")
  let outer := name
  let (name, token, isComputed) ←
    if isStatic then do
      let (name, token, isComputed) ← markOrName g
      pure (name.or outer, token, isComputed)
    else pure (name, token, isComputed)
  let state ← get
  if outer.isSome && token == .name "async" && !state.afterBreak &&
      !state.next.spells ":" && !state.next.spells "(" && !state.next.spells "*" then
    return ⟨some (← propertyName g), state.next, isStatic, true, isComputed⟩
  else return ⟨name, token, isStatic, false, isComputed⟩

/-- The name and the kind of a method whose front has been read, and its parameters and body. -/
def methodTail (g : Grammar) (head : MethodHead) : Parse (Node × MethodKind × Bool) := do
  let propertyAhead := (← get).next.startsProperty
  let isComputed ← if propertyAhead then nextIs "[" else pure head.isComputed
  if propertyAhead && head.token == .name "get" then
    return (← getter g, .accessor, isComputed)
  else if propertyAhead && head.token == .name "set" then
    return (← setter g, .accessor, isComputed)
  else if propertyAhead && head.token == .sign "*" then
    let name ← propertyName g
    generatorMethod g
    return (name, .generator, isComputed)
  else
    match head.name with
    | some name =>
      if !(← nextIs "(") then unexpectedNext
      if head.isAsync then asyncMethod g else method g
      return (name, .plain, head.isComputed)
    | none => unexpectedNext

/-- A method. The result tells whether it is the constructor. -/
def classMethod (g : Grammar) : Parse Bool := do
  let head ← methodHead g
  let (name, kind, isComputed) ← methodTail g head
  if isComputed then return false
  else if head.isStatic then
    if name.propertyName? == some "prototype".toList then reject
    return false
  else if name.propertyName? == some "constructor".toList then
    if kind != .plain then reject
    return true
  else return false

/-- The methods of a class. -/
def classBody (g : Grammar) : Parse Unit := do
  expect "\x7b"
  loop (fun hasConstructor => do
    if ← nextIs "\x7d" then return .inr ()
    else if ← accept ";" then return .inl hasConstructor
    else
      let isConstructor ← classMethod g
      if isConstructor && hasConstructor then reject
      return .inl (hasConstructor || isConstructor)) false
  expect "\x7d"

end ProjectGauge.Script
