import ProjectGauge.Script.Function

/-!
# Lists and tables

List and table literals may turn out to be the targets of an assignment, so a table may hold a default
for one of its names as long as it becomes a target in the end.
-/

namespace ProjectGauge.Script

/-- An item that stands for many. -/
def spreadItem (g : Grammar) : Parse Node := do
  expect "..."
  return .spread (← inherited (g .assignment))

def listLiteral (g : Grammar) : Parse Node := do
  expect "["
  let items ← loop (fun items => do
    if ← nextIs "]" then return .inr items
    else if ← accept "," then return .inl items
    else if ← nextIs "..." then
      let item ← spreadItem g
      if !(← nextIs "]") then
        setBindable false
        expect ","
      return .inl (item :: items)
    else
      let item ← inherited (g .assignment)
      if !(← nextIs "]") then expect ","
      return .inl (item :: items)) []
  expect "]"
  return .parts items.reverse

/-- What stands in front of the value of a member. -/
inductive MemberHead where
  /-- A name with what it spells, whether it is that of an async method, and the token that started
  it. -/
  | named (name : Node) (isAsync : Bool) (token : Token)
  /-- The mark of a generator. -/
  | generator

/-- The front of a member of a table. -/
def memberHead (g : Grammar) : Parse MemberHead := do
  let token := (← get).next
  match token with
  | .name word =>
    let _ ← advance
    let state ← get
    let isAsync := !state.afterBreak && word == "async" &&
      !([Token.sign ":", .sign "(", .sign "*", .sign ","].contains state.next)
    let name ← if isAsync then propertyName g else pure (.name word)
    return .named name isAsync token
  | .sign "*" =>
    let _ ← advance
    return .generator
  | _ => return .named (← propertyName g) false token

/-- The value of a member that is neither read nor written by a method of its own. -/
def memberValue (g : Grammar) (isAsync : Bool) (token : Token) : Parse Node := do
  if !isAsync && (← nextIs ":") then
    let _ ← advance
    inherited (g .assignment)
  else if ← nextIs "(" then
    if isAsync then asyncMethod g else method g
    return .other
  else
    match token with
    | .name word =>
      if ← nextIs "=" then
        setHoldsDefault true
        let _ ← advance
        return .assignment (.name word) (← isolated (g .assignment))
      else return .name word
    | _ => unexpected (← advance)

/-- A member of a table. -/
def member (g : Grammar) : Parse Node := do
  let head ← memberHead g
  let propertyAhead := (← get).next.startsProperty
  match head with
  | .generator =>
    if !propertyAhead then unexpectedNext
    let _ ← propertyName g
    generatorMethod g
    return .other
  | .named _ isAsync token =>
    if !isAsync && token == .name "get" && propertyAhead then
      let _ ← getter g
      return .other
    else if !isAsync && token == .name "set" && propertyAhead then
      let _ ← setter g
      return .other
    else memberValue g isAsync token

def tableLiteral (g : Grammar) : Parse Node := do
  expect "\x7b"
  let members ← manyUntil (nextIs "\x7d") do
    let member ← if ← nextIs "..." then spreadItem g else member g
    if !(← nextIs "\x7d") then separate
    return member
  expect "\x7d"
  return .parts members

end ProjectGauge.Script
