import ProjectGauge.Script.State

/-!
# Bindings

A binding names something: a single name, or a list or table of bindings that takes a value apart.
Each part may have a default. Parameters of functions are bindings.
-/

namespace ProjectGauge.Script

/-- A name that is bound. The words that only strict code reserves pass. -/
def boundName : Parse Node := do
  match ← advance with
  | .name word => return .name word
  | .keyword word => if strictWords.contains word then return .name word else reject
  | token => unexpected token

/-- A number, which should not be octal. -/
def tolerateOctal (number : Numeral) : Parse Unit := do
  if number.isOctal then tolerate (.numeral number)

def propertyName (g : Grammar) : Parse Node := do
  match ← advance with
  | .text value => return .text value
  | .numeral number =>
    tolerateOctal number
    return .other
  | .sign "[" =>
    let name ← isolated (g .assignment)
    expect "]"
    return name
  | token =>
    match token.word? with
    | some word => return .name word
    | none => unexpected token

def bindingWithDefault (g : Grammar) : Parse Node := do
  let target ← g .pattern
  if ← accept "=" then
    let value ← within (fun scope => { scope with yieldIsName := true })
      (fun before after => { after with yieldIsName := before.yieldIsName })
      (isolated (g .assignment))
    return .assignment target value
  else return target

/-- A binding that takes what is left. -/
def restBinding (g : Grammar) : Parse Node := do
  expect "..."
  return .spread (← g .pattern)

/-- A binding that takes what is left and has to be the last in front of a closing sign. -/
def lastBinding (close : String) (g : Grammar) : Parse Node := do
  let rest ← restBinding g
  if !(← nextIs close) then reject
  return rest

def listBinding (g : Grammar) : Parse Node := do
  expect "["
  let items ← loop (fun items => do
    if ← nextIs "]" then return .inr items
    else if ← accept "," then return .inl items
    else if ← nextIs "..." then return .inr ((← restBinding g) :: items)
    else
      let item ← bindingWithDefault g
      if !(← nextIs "]") then expect ","
      return .inl (item :: items)) []
  expect "]"
  return .parts items.reverse

def memberBinding (g : Grammar) : Parse Node := do
  match (← get).next with
  | .name word =>
    let _ ← advance
    if ← accept "=" then return .assignment (.name word) (← g .assignment)
    else if ← accept ":" then bindingWithDefault g
    else return .name word
  | _ =>
    let _ ← propertyName g
    expect ":"
    bindingWithDefault g

def tableBinding (g : Grammar) : Parse Node := do
  expect "\x7b"
  return .parts (← commaList "\x7d" do
    if ← nextIs "..." then lastBinding "\x7d" g else memberBinding g)

def binding (g : Grammar) : Parse Node := do
  if ← nextIs "[" then listBinding g
  else if ← nextIs "\x7b" then tableBinding g
  else boundName

/-- A parameter of a function. -/
def parameter (g : Grammar) : Parse Node := do
  if ← nextIs "..." then lastBinding ")" g else bindingWithDefault g

/-- The parameters of a function in parentheses. -/
def parameterList (g : Grammar) : Parse Unit := do
  expect "("
  let _ ← commaList ")" (parameter g)

end ProjectGauge.Script
