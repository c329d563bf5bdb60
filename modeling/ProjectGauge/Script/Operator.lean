import ProjectGauge.Script.Operand

/-!
# Operators

Operators combine operands into expressions. The order in which binary operators bind has no bearing
on which texts are expressions, so a chain of them is parsed as one list.
-/

namespace ProjectGauge.Script

/-- The token ahead is an operator in front of its operand. -/
def startsPrefix : Parse Bool := do
  match (← get).next with
  | .sign symbol => return ["+", "-", "~", "!"].contains symbol
  | .keyword word => return ["delete", "void", "typeof"].contains word
  | _ => return false

/-- The token ahead adds or subtracts one. -/
def startsUpdate : Parse Bool := do
  return (← nextIs "++") || (← nextIs "--")

/-- An operand that one may be added to or subtracted from. -/
def update (g : Grammar) : Parse Node := do
  if ← startsUpdate then
    let _ ← advance
    let _ ← inherited (g .unary)
    setBindable false
    return .other
  else
    let node ← inherited (operand g)
    if !(← get).afterBreak && (← startsUpdate) then
      setBindable false
      let _ ← advance
      return .other
    else return node

/-- An operand with the operators in front of it. -/
def unary (g : Grammar) : Parse Node := do
  if ← startsPrefix then
    let _ ← advance
    let _ ← inherited (g .unary)
    setBindable false
    return .unary
  else if (← get).scope.awaits && (← nextIsName "await") then
    let _ ← advance
    let _ ← g .unary
    return .other
  else update g

/-- A power. An operator in front of its base is refused. -/
def exponent (g : Grammar) : Parse Node := do
  let base ← inherited (unary g)
  match base with
  | .unary => return base
  | _ =>
    if ← accept "**" then
      setBindable false
      let _ ← isolated (g .exponent)
      return .other
    else return base

/-- The token ahead is an operator between two operands. -/
def startsBinary : Parse Bool := do
  let state ← get
  return state.next.isBinary state.scope.allowIn

/-- A chain of operators between operands. -/
def binary (g : Grammar) : Parse Node := do
  let first ← inherited (exponent g)
  if ← startsBinary then
    let _ ← advance
    setBindable false
    let _ ← isolated (exponent g)
    let _ ← manyUntil (return !(← startsBinary)) do
      let _ ← advance
      isolated (exponent g)
    return .other
  else return first

/-- A choice between two expressions. -/
def conditional (g : Grammar) : Parse Node := do
  let condition ← inherited (binary g)
  if ← accept "?" then
    let _ ← within (fun scope => { scope with allowIn := true }) restoreIn
      (isolated (g .assignment))
    expect ":"
    let _ ← isolated (g .assignment)
    setBindable false
    return .other
  else return condition

/-- A `yield` with its operand. -/
def yielding (g : Grammar) : Parse Node := do
  expectKeyword "yield"
  if (← get).afterBreak then return .yielded false
  else
    within (fun scope => { scope with yieldIsName := false })
      (fun before after => { after with yieldIsName := before.yieldIsName }) do
        if ← accept "*" then
          let _ ← g .assignment
          return .yielded true
        else if (← get).next.startsOperand then
          let _ ← g .assignment
          return .yielded true
        else return .yielded false

/-- An arrow function behind its parameters. -/
def arrow (g : Grammar) (items : List Node) (isAsync : Bool) : Parse Node := do
  if items.any (Node.isRefusedParameter isAsync) then unexpectedNext
  if bindsTwice (Node.allBoundNames items) then reject
  if (← get).afterBreak then tolerate (← get).next
  setHoldsDefault false
  within (fun scope => { scope with yieldIsName := true, awaits := isAsync }) restoreOperators do
    expect "=>"
    if ← nextIs "\x7b" then
      within (fun scope => { scope with allowIn := true }) restoreIn (functionBody g)
    else let _ ← isolated (g .assignment)
  return .other

/-- A single parameter behind the word `async` on its line. -/
def asyncParameter? (g : Grammar) (first : Token) (line : Nat) : Parse (Option Node) := do
  let state ← get
  if first == .name "async" && line == state.line then
    match state.next with
    | .name _ => return some (← primary g)
    | .keyword "yield" => return some (← primary g)
    | _ => return none
  else return none

/-- An assignment, an arrow function or a simpler expression. -/
def assignment (g : Grammar) : Parse Node := do
  let state ← get
  if !state.scope.yieldIsName && state.next == .keyword "yield" then yielding g
  else
    let plain ← conditional g
    let node ← match ← asyncParameter? g state.next state.line with
      | some parameter => pure (.parameters [parameter] true)
      | none => pure plain
    let isArrow := (match node with
      | .parameters .. => true
      | _ => false) || (← nextIs "=>")
    if isArrow then
      setBindable false
      match node.arrowParameters? with
      | some (items, isAsync) => arrow g items isAsync
      | none => return node
    else if (← get).next.isAssignment then
      if !(← nextIs "=") then setBindable false
      let _ ← advance
      let value ← isolated (g .assignment)
      setHoldsDefault false
      return .assignment node value
    else return node

end ProjectGauge.Script
