import ProjectGauge.Script.Table
import ProjectGauge.Script.Class
import ProjectGauge.Script.Markup

/-!
# Operands

An operand is a primary expression with the calls and the accesses behind it.
-/

namespace ProjectGauge.Script

/-! ## Primary expressions -/

/-- A template with its substitutions. -/
def templateLiteral (g : Grammar) : Parse Unit := do
  match (← get).next with
  | .template true closes =>
    let _ ← advance
    loop (fun closed => do
      if closed then return .inr ()
      let _ ← expression g
      match (← get).next with
      | .template _ closes =>
        let _ ← advance
        return .inl closes
      | _ => reject) closes
  | _ => throw .unopenedTemplate

/-- A regular expression, whose slash has been taken for an operator. -/
def patternLiteral : Parse Unit := do
  rewind
  let state ← get
  match readPattern state.scanner.place.rest with
  | none => reject
  | some rest =>
    let scanner := state.scanner.goTo rest 0
    set { state with scanner, next := .pattern, line := scanner.place.line }
    let _ ← advance

/-- The end of parameters in front of an arrow. -/
def parametersEnd (items : List Node) : Parse Node := do
  if !(← nextIs "=>") then expect "=>"
  return .parameters items false

/-- Expressions with commas between them, or parameters with a comma or a rest behind the last. -/
def groupItems (g : Grammar) (first : Node) : Parse Node :=
  loop (fun items => do
    if !(← accept ",") then return .inr (.sequence items.reverse)
    else if ← accept ")" then return .inr (.parameters items.reverse false)
    else if ← nextIs "..." then
      if !(← get).cover.bindable then reject
      let rest ← lastBinding ")" g
      expect ")"
      setBindable false
      return .inr (← parametersEnd (rest :: items).reverse)
    else return .inl ((← inherited (g .assignment)) :: items)) [first]

/-- Expressions in parentheses behind the first of them, or the parameters of an arrow function. -/
def groupEnd (content : Node) : Parse Node := do
  match content with
  | .parameters items isAsync => return .parameters items isAsync
  | _ =>
    expect ")"
    let result ←
      if ← nextIs "=>" then
        if !(← get).cover.bindable then reject
        pure <| match content with
          | .sequence items => .parameters items false
          | node => .parameters [node] false
      else pure content
    setBindable false
    return result

/-- An expression in parentheses or the parameters of an arrow function. -/
def group (g : Grammar) : Parse Node := do
  expect "("
  if ← accept ")" then parametersEnd []
  else if ← nextIs "..." then
    let rest ← lastBinding ")" g
    expect ")"
    parametersEnd [rest]
  else
    setBindable true
    let first ← inherited (g .assignment)
    if ← nextIs "," then groupEnd (← groupItems g first) else groupEnd first

/-- The class from which another one inherits. -/
def heritage (g : Grammar) : Parse Unit := do
  if ← nextIsKeyword "extends" then
    let _ ← advance
    let _ ← isolated (g .operand)

/-- A class, which may have to have a name. -/
def classOf (g : Grammar) (needsName : Bool) : Parse Node := do
  expectKeyword "class"
  let isNamed := match (← get).next with
    | .name _ => true
    | _ => false
  if needsName || isNamed then let _ ← boundName
  heritage g
  classBody g
  return .other

/-- A literal that is a token. -/
def literal : Parse Node := do
  if let .numeral number := (← get).next then tolerateOctal number
  setBindable false
  match ← advance with
  | .text value => return .text value
  | _ => return .other

def keywordExpression (g : Grammar) (word : String) : Parse Node := do
  setBindable false
  match word with
  | "function" => function g false
  | "class" => classOf g false
  | "this" =>
    let _ ← advance
    return .other
  | _ =>
    if !(← startsImportCall) then reject
    let _ ← advance
    return .other

def signExpression (g : Grammar) (symbol : String) : Parse Node := do
  match symbol with
  | "<" => markup g
  | "(" =>
    setBindable false
    inherited (group g)
  | "[" => inherited (listLiteral g)
  | "\x7b" => inherited (tableLiteral g)
  | "/" =>
    setBindable false
    patternLiteral
    return .other
  | "/=" =>
    setBindable false
    patternLiteral
    return .other
  | _ => reject

/-- A primary expression. -/
def primary (g : Grammar) : Parse Node := do
  match (← get).next with
  | .name word =>
    if ← startsAsyncFunction then function g false
    else
      let _ ← advance
      return .name word
  | .numeral _ => literal
  | .text _ => literal
  | .constant _ => literal
  | .template _ _ =>
    templateLiteral g
    return .other
  | .sign symbol => signExpression g symbol
  | .keyword word => keywordExpression g word
  | _ => reject

/-! ## Calls and accesses -/

/-- Arguments in parentheses. -/
def arguments (g : Grammar) (isAsync : Bool) : Parse (List Node) := do
  expect "("
  let items ← manyUntil (nextIs ")") do
    let item ←
      if ← nextIs "..." then spreadItem g
      else isolated do
        let item ← g .assignment
        if isAsync then setHoldsDefault false
        return item
    if !(← nextIs ")") then separate
    return item
  expect ")"
  return items

/-- An object that is made from a class. -/
def construction (g : Grammar) : Parse Node := do
  expectKeyword "new"
  if ← accept "." then
    let state ← get
    if !state.scope.inFunction || state.next != .name "target" then
      unexpected state.next
    let _ ← advance
  else
    if ← nextIsKeyword "import" then reject
    let _ ← isolated (g .callee)
    if ← nextIs "(" then let _ ← arguments g false
    setBindable false
  return .other

/-- A construction or a primary expression. -/
def head (g : Grammar) : Parse Node := do
  inherited (if ← nextIsKeyword "new" then construction g else primary g)

/-- The word for the inherited class, which one of some signs has to follow. -/
def inheritedClass (followers : List String) : Parse Node := do
  expectKeyword "super"
  if !(followers.map Token.sign).contains (← get).next then unexpectedNext
  return .other

/-- The word for the inherited class is ahead and allowed. -/
def startsInheritedClass : Parse Bool :=
  return (← nextIsKeyword "super") && (← get).scope.inFunction

/-- An access by name or in brackets, or a template behind an operand; nothing if none is ahead. -/
def access (g : Grammar) : Parse Bool := do
  match (← get).next with
  | .sign "." =>
    setBindable false
    let _ ← advance
    let _ ← anyWord
    return true
  | .sign "[" =>
    setBindable false
    let _ ← advance
    let _ ← isolated (expression g)
    expect "]"
    return true
  | .template true _ =>
    templateLiteral g
    return true
  | _ => return false

/-- An operand of `new`, which holds no calls. -/
def callee (g : Grammar) : Parse Node := do
  let first ←
    if ← startsInheritedClass then inheritedClass ["[", "."] else head g
  loop (fun node => do if ← access g then return .inl .other else return .inr node) first

/-- A call. Behind the word `async` its arguments may be the parameters of an arrow function. -/
def call (g : Grammar) (mayBeParameters : Bool) : Parse Node := do
  setBindable false
  let items ← arguments g mayBeParameters
  if mayBeParameters && (← nextIs "=>") then return .parameters items true else return .other

/-- An operand with its calls and accesses. -/
def operand (g : Grammar) : Parse Node := do
  let state ← get
  let isAsync := state.next == .name "async"
  within (fun scope => { scope with allowIn := true }) restoreIn do
    let first ←
      if ← startsInheritedClass then inheritedClass ["(", ".", "["] else head g
    loop (fun node => do
      if ← nextIs "(" then
        return .inl (← call g (isAsync && state.line == (← get).line))
      else if ← access g then return .inl .other
      else return .inr node) first

end ProjectGauge.Script
