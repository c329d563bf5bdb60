import ProjectGauge.Script.Operator

/-!
# Statements

A condition whose closing parenthesis is missing costs the statement its body: one token is passed
over and the text goes on behind it.
-/

namespace ProjectGauge.Script

def expressionStatement (g : Grammar) : Parse Unit := do
  let _ ← expression g
  endStatement

/-- The closing parenthesis of a condition and what depends on it. Without the parenthesis a token is
passed over instead. -/
def closed (body : Parse Unit) : Parse Unit := do
  if ← accept ")" then body
  else tolerate (← advance)

/-- A statement that depends on others. -/
def dependent (g : Grammar) : Parse Unit := do
  let _ ← g .statement

def loopBody (body : Parse Unit) : Parse Unit :=
  within (fun scope => { scope with inLoop := true })
    (fun before after => { after with inLoop := before.inLoop }) body

/-- Statements in braces. -/
def block (g : Grammar) : Parse Unit := do
  expect "\x7b"
  let _ ← manyUntil (nextIs "\x7d") (g .item)
  expect "\x7d"

/-! ## Declarations -/

/-- A name or a binding that is declared with `let` or `const`. The result tells whether it has a
value. -/
def lexicalBinding (g : Grammar) (isConstant inFor : Bool) : Parse Bool := do
  let target ← binding g
  let hasValue ← accept "="
  if hasValue then let _ ← isolated (g .assignment)
  else if isConstant then
    if !(← nextIsKeyword "in") && !(← nextIsName "of") then reject
  else if !inFor && !target.isName then expect "="
  return hasValue

/-- A name or a binding that is declared with `var`. The result tells whether it has a value. -/
def variableBinding (g : Grammar) (inFor : Bool) : Parse Bool := do
  let target ← binding g
  let hasValue ← accept "="
  if hasValue then let _ ← isolated (g .assignment)
  else if !inFor && !target.isName then expect "="
  return hasValue

/-- Declarations with commas between them. -/
def declarations (declaration : Parse Bool) : Parse (List Bool) := do
  let first ← declaration
  let others ← manyUntil (return !(← nextIs ",")) do
    let _ ← advance
    declaration
  return first :: others

/-- A declaration with `let` or `const`. -/
def lexicalDeclaration (g : Grammar) : Parse Unit := do
  let isConstant := (← advance) == .keyword "const"
  let _ ← declarations (lexicalBinding g isConstant false)
  endStatement

/-- A declaration with `var`. -/
def variableStatement (g : Grammar) : Parse Unit := do
  expectKeyword "var"
  let _ ← declarations (variableBinding g false)
  endStatement

/-- A declaration follows the word `let`. -/
def startsLexicalDeclaration : Parse Bool := do
  match (← peek).1 with
  | .name _ => return true
  | .sign symbol => return symbol == "[" || symbol == "\x7b"
  | .keyword word => return word == "let" || word == "yield"
  | _ => return false

/-! ## Conditions and loops -/

/-- A condition with one or two branches. -/
def ifStatement (g : Grammar) : Parse Unit := do
  expectKeyword "if"
  expect "("
  let _ ← expression g
  closed do
    dependent g
    if ← nextIsKeyword "else" then
      let _ ← advance
      dependent g

/-- A loop with its condition behind the body. -/
def doStatement (g : Grammar) : Parse Unit := do
  expectKeyword "do"
  loopBody (dependent g)
  expectKeyword "while"
  expect "("
  let _ ← expression g
  closed do
    let _ ← accept ";"

/-- A loop with its condition in front of the body. -/
def whileStatement (g : Grammar) : Parse Unit := do
  expectKeyword "while"
  expect "("
  let _ ← expression g
  closed (loopBody (dependent g))

/-- What stands behind a loop target, if a word makes it one: an expression behind `in`, an assignment
behind `of`. The result tells whether a target has been found. -/
def loopSource (g : Grammar) (mayBeIn mayBeOf : Bool) : Parse Bool := do
  if mayBeIn && (← nextIsKeyword "in") then
    let _ ← advance
    let _ ← expression g
    return true
  else if mayBeOf && (← nextIsName "of") then
    let _ ← advance
    let _ ← g .assignment
    return true
  else return false

/-- A part of a loop head in which `in` is no operator. -/
def withoutIn (part : Parse α) : Parse α :=
  within (fun scope => { scope with allowIn := false }) restoreIn part

/-- The start of a loop head that declares variables. The result tells whether the loop runs over a
source. -/
def variableHead (g : Grammar) : Parse Bool := do
  let _ ← advance
  let values ← withoutIn (declarations (variableBinding g true))
  let isOver ← loopSource g (values.length == 1) (values == [false])
  if !isOver then expect ";"
  return isOver

/-- The start of a loop head that declares names of the loop. -/
def lexicalHead (g : Grammar) : Parse Bool := do
  let isConstant := (← advance) == .keyword "const"
  let values ← withoutIn (declarations (lexicalBinding g isConstant true))
  let isOver ← loopSource g (values == [false]) (values == [false])
  if !isOver then endStatement
  return isOver

/-- The start of a loop head that is an expression. -/
def expressionHead (g : Grammar) : Parse Bool := do
  let _ ← withoutIn (inherited (g .assignment))
  let isOver ← loopSource g true true
  if !isOver then
    let _ ← manyUntil (return !(← nextIs ",")) do
      let _ ← advance
      isolated (g .assignment)
    expect ";"
  return isOver

def loopHead (g : Grammar) : Parse Bool := do
  match (← get).next with
  | .sign ";" =>
    let _ ← advance
    return false
  | .keyword "var" => variableHead g
  | .keyword "const" => lexicalHead g
  | .keyword "let" => lexicalHead g
  | _ => expressionHead g

/-- A loop with a head. -/
def forStatement (g : Grammar) : Parse Unit := do
  expectKeyword "for"
  expect "("
  if !(← loopHead g) then
    if !(← nextIs ";") then let _ ← expression g
    expect ";"
    if !(← nextIs ")") then let _ ← expression g
  closed (loopBody (isolated (dependent g)))

/-! ## Jumps -/

/-- The label of a jump, which has to be one that encloses it. -/
def jumpLabel : Parse Bool := do
  let state ← get
  match state.next with
  | .name word =>
    if state.afterBreak then return false
    else
      let _ ← advance
      if !state.scope.labels.contains word then reject
      return true
  | _ => return false

/-- A jump to the next round of a loop. -/
def continueStatement : Parse Unit := do
  expectKeyword "continue"
  let hasLabel ← jumpLabel
  endStatement
  if !hasLabel && !(← get).scope.inLoop then reject

/-- A jump out of a statement. -/
def breakStatement : Parse Unit := do
  expectKeyword "break"
  let hasLabel ← jumpLabel
  endStatement
  let scope := (← get).scope
  if !hasLabel && !scope.inLoop && !scope.inSwitch then reject

/-- The return from a function. -/
def returnStatement (g : Grammar) : Parse Unit := do
  expectKeyword "return"
  let state ← get
  let hasValue : Bool := match state.next with
    | .text _ => true
    | .template .. => true
    | token =>
      token != .sign ";" && token != .sign "\x7d" && token != .finish && !state.afterBreak
  if hasValue then let _ ← expression g
  endStatement

/-- A raised error, whose value starts on the same line. -/
def throwStatement (g : Grammar) : Parse Unit := do
  expectKeyword "throw"
  if (← get).afterBreak then reject
  expressionStatement g

/-! ## Other statements -/

/-- A statement for which names are looked up in an object. -/
def withStatement (g : Grammar) : Parse Unit := do
  expectKeyword "with"
  expect "("
  let _ ← expression g
  closed (dependent g)

/-- A case of a switch. The result tells whether it is the default. -/
def switchCase (g : Grammar) : Parse Bool := do
  let isDefault ← nextIsKeyword "default"
  if isDefault then let _ ← advance
  else
    expectKeyword "case"
    let _ ← expression g
  expect ":"
  let _ ← manyUntil
    (return (← nextIs "\x7d") || (← nextIsKeyword "default") || (← nextIsKeyword "case"))
    (g .item)
  return isDefault

/-- A choice between cases, of which one may be the default. -/
def switchStatement (g : Grammar) : Parse Unit := do
  expectKeyword "switch"
  expect "("
  let _ ← expression g
  expect ")"
  within (fun scope => { scope with inSwitch := true })
    (fun before after => { after with inSwitch := before.inSwitch }) do
      expect "\x7b"
      loop (fun hasDefault => do
        if ← nextIs "\x7d" then return .inr ()
        else
          let isDefault ← switchCase g
          if isDefault && hasDefault then reject
          return .inl (hasDefault || isDefault)) false
      expect "\x7d"

/-- The handler of an error, which names it. -/
def catchClause (g : Grammar) : Parse Unit := do
  expectKeyword "catch"
  expect "("
  let _ ← binding g
  expect ")"
  block g

/-- A block whose errors are handled, or that something follows in any case. -/
def tryStatement (g : Grammar) : Parse Unit := do
  expectKeyword "try"
  block g
  let hasHandler ← nextIsKeyword "catch"
  if hasHandler then catchClause g
  let hasFinish ← nextIsKeyword "finally"
  if hasFinish then
    let _ ← advance
    block g
  if !hasHandler && !hasFinish then reject

/-- A statement with a label, which no enclosing one may have. -/
def labelled (g : Grammar) (label : String) : Parse Unit := do
  let _ ← advance
  if (← get).scope.labels.contains label then reject
  within (fun scope => { scope with labels := label :: scope.labels })
    (fun before after => { after with labels := before.labels }) do
      match (← get).next with
      | .keyword "class" => let _ ← classOf g true
      | .keyword "function" => let _ ← function g true
      | _ => dependent g

def nameStatement (g : Grammar) : Parse Unit := do
  if ← startsAsyncFunction then let _ ← function g true
  else
    let node ← expression g
    match node, (← get).next with
    | .name label, .sign ":" => labelled g label
    | _, _ => endStatement

def keywordStatement (g : Grammar) (word : String) : Parse Unit := do
  match word with
  | "break" => breakStatement
  | "continue" => continueStatement
  | "debugger" =>
    let _ ← advance
    endStatement
  | "do" => doStatement g
  | "for" => forStatement g
  | "function" => let _ ← function g true
  | "if" => ifStatement g
  | "return" => returnStatement g
  | "switch" => switchStatement g
  | "throw" => throwStatement g
  | "try" => tryStatement g
  | "var" => variableStatement g
  | "while" => whileStatement g
  | "with" => withStatement g
  | _ => expressionStatement g

def statement (g : Grammar) : Parse Node := do
  match (← get).next with
  | .sign "\x7b" => block g
  | .sign ";" => let _ ← advance
  | .name _ => nameStatement g
  | .keyword word => keywordStatement g word
  | .finish => reject
  | .tagWord => reject
  | _ => expressionStatement g
  return .other

end ProjectGauge.Script
