import ProjectGauge.Script.Scanner
import ProjectGauge.Script.Node

/-!
# The state of the parser

The parser looks one token ahead. It knows what encloses the place that it has reached, and about the
expression at hand whether it may still turn out to be a target of names.

* `advance` takes the next token, `expect` and `expectKeyword` demand one.
* `unexpected` gives up at a token, `tolerate` goes on behind it.
* `isolated` and `inherited` parse an expression with fresh knowledge about it; what has been learned
  is dropped or joined with what was known.
* `loop` repeats a step as long as it asks for it.
-/

namespace ProjectGauge.Script

/-- What encloses a place. -/
structure Scope where
  /-- The word `await` takes an operand. -/
  awaits : Bool
  /-- The word `in` is an operator. -/
  allowIn : Bool
  /-- The word `yield` is not an operator. -/
  yieldIsName : Bool
  inFunction : Bool
  inLoop : Bool
  inSwitch : Bool
  labels : List String

/-- What is known about an expression that may be a target of names. -/
structure Cover where
  /-- Nothing has been seen that a list of parameters may not hold. -/
  bindable : Bool
  /-- A table has a default for one of its names, which only a target may have. -/
  holdsDefault : Bool

/-- The state of the parser. -/
structure State where
  scanner : Scanner
  /-- The token ahead. -/
  next : Token
  /-- The line on which the token ahead ends. -/
  line : Nat
  /-- The place where the token ahead starts. -/
  start : Place
  /-- The token ahead ends on another line than the token in front of it. -/
  afterBreak : Bool
  scope : Scope
  cover : Cover

/-- A parser. It knows the number of times that a step may be repeated. -/
abbrev Parse := ReaderT Nat (StateT State (Except Rejection))

/-- The phrases that contain each other. -/
inductive Goal where
  | assignment
  | unary
  | exponent
  | callee
  | operand
  | pattern
  | statement
  | item
  | element

/-- A parser for each of the phrases that contain each other. -/
abbrev Grammar := Goal → Parse Node

/-- The text does not follow the grammar. -/
def reject : Parse α :=
  throw .grammar

/-- The token is not expected. -/
def unexpected (token : Token) : Parse α :=
  throw token.objection

/-- The token is not expected, but the text goes on. -/
def tolerate (token : Token) : Parse Unit :=
  match token.objection with
  | .grammar => pure ()
  | rejection => throw rejection

/-! ## Tokens -/

/-- Takes the token ahead and reads the one behind it. -/
def advance : Parse Token := do
  let state ← get
  let scanner := state.scanner.skipSpace false
  match scanner.token with
  | none => reject
  | some (token, after) =>
    set { state with
      scanner := after
      next := token.strict
      line := after.place.line
      start := scanner.place
      afterBreak := state.line != after.place.line }
    return state.next

/-- The token behind the one ahead, and whether it ends on the line that the scanner has reached. -/
def peek : Parse (Token × Bool) := do
  let state ← get
  match (state.scanner.skipSpace false).token with
  | none => reject
  | some (token, after) =>
    set { state with scanner := { after with place := state.scanner.place } }
    return (token, after.place.line == state.scanner.place.line)

/-- Lets the parser go on from the start of the token ahead. -/
def rewind : Parse Unit :=
  modify fun state => { state with scanner := { state.scanner with place := state.start } }

/-- The token ahead is a sign. -/
def nextIs (symbol : String) : Parse Bool :=
  return (← get).next == .sign symbol

/-- The token ahead is a keyword. -/
def nextIsKeyword (word : String) : Parse Bool :=
  return (← get).next == .keyword word

/-- The token ahead is a certain name. -/
def nextIsName (word : String) : Parse Bool :=
  return (← get).next == .name word

/-- The token ahead is not expected. -/
def unexpectedNext : Parse α := do
  unexpected (← get).next

/-- Takes the token ahead, which has to be a certain one. -/
def expectToken (expected : Token) : Parse Unit := do
  let token ← advance
  if token != expected then unexpected token

/-- Takes a sign. -/
def expect (symbol : String) : Parse Unit :=
  expectToken (.sign symbol)

/-- Takes a keyword. -/
def expectKeyword (word : String) : Parse Unit :=
  expectToken (.keyword word)

/-- Takes a sign if it is ahead. -/
def accept (symbol : String) : Parse Bool := do
  let found ← nextIs symbol
  if found then let _ ← advance
  return found

/-- Takes a word of any kind. -/
def anyWord : Parse String := do
  let token ← advance
  match token.word? with
  | some word => return word
  | none => unexpected token

/-- Takes the end of a statement: a semicolon, or nothing in front of a closing brace, a new line or
the end of the text. -/
def endStatement : Parse Unit := do
  if !(← accept ";") then
    let state ← get
    if !state.afterBreak && state.next != .finish && state.next != .sign "\x7d" then
      unexpected state.next

/-- Takes what separates two items; nothing has to. -/
def separate : Parse Unit := do
  if !(← accept ",") then
    if !(← accept ";") then tolerate (← get).next

def startsAsyncFunction : Parse Bool := do
  if ← nextIsName "async" then
    let (token, sameLine) ← peek
    return sameLine && token == .keyword "function"
  else return false

/-- A call that loads a module starts with the token ahead. -/
def startsImportCall : Parse Bool := do
  if ← nextIsKeyword "import" then return (← peek).1 == .sign "("
  else return false

/-! ## Repetition -/

/-- Repeats a step at most a number of times. -/
def loopUpTo (step : α → Parse (α ⊕ β)) : Nat → α → Parse β
  | 0, _ => throw .exhausted
  | n + 1, a => do
    match ← step a with
    | .inl a => loopUpTo step n a
    | .inr b => return b

/-- Repeats a step until it has a result. -/
def loop (step : α → Parse (α ⊕ β)) (start : α) : Parse β := do
  loopUpTo step (← read) start

def manyUntil (isEnd : Parse Bool) (part : Parse α) : Parse (List α) :=
  loop (fun parts => do
    if ← isEnd then return .inr parts.reverse
    else return .inl ((← part) :: parts)) []

/-- The parts of a list up to its closing sign, with commas between them. A comma may stand behind the
last part. -/
def commaList (close : String) (part : Parse α) : Parse (List α) := do
  let parts ← manyUntil (nextIs close) do
    let item ← part
    if !(← nextIs close) then expect ","
    return item
  expect close
  return parts

/-! ## Context -/

/-- Changes what encloses the place. -/
def modifyScope (change : Scope → Scope) : Parse Unit :=
  modify fun state => { state with scope := change state.scope }

/-- Parses a part in a changed scope. Behind it, `restore` puts back what the scope was before. -/
def within (change : Scope → Scope) (restore : Scope → Scope → Scope) (part : Parse α) :
    Parse α := do
  let before := (← get).scope
  modifyScope change
  let result ← part
  modifyScope (restore before)
  return result

/-- Restores the rules for `await` and `yield`. -/
def restoreOperators (before after : Scope) : Scope :=
  { after with awaits := before.awaits, yieldIsName := before.yieldIsName }

/-- Restores the rule for `in`. -/
def restoreIn (before after : Scope) : Scope :=
  { after with allowIn := before.allowIn }

/-- The expression at hand is no target of names. -/
def setBindable (bindable : Bool) : Parse Unit :=
  modify fun state => { state with cover := { state.cover with bindable } }

/-- Whether the expression at hand holds a default. -/
def setHoldsDefault (holdsDefault : Bool) : Parse Unit :=
  modify fun state => { state with cover := { state.cover with holdsDefault } }

/-- Parses an expression on its own: it may not hold a default, and nothing that is learned about it
counts for what surrounds it. -/
def isolated (part : Parse α) : Parse α := do
  let before := (← get).cover
  modify fun state => { state with cover := ⟨true, false⟩ }
  let result ← part
  if (← get).cover.holdsDefault then reject
  modify fun state => { state with cover := before }
  return result

/-- Parses an expression that is a part of another: what is learned about it counts for the other. -/
def inherited (part : Parse α) : Parse α := do
  let before := (← get).cover
  modify fun state => { state with cover := ⟨true, false⟩ }
  let result ← part
  modify fun state => { state with
    cover := ⟨state.cover.bindable && before.bindable,
      before.holdsDefault || state.cover.holdsDefault⟩ }
  return result

/-- An expression, which may be several with commas between them. -/
def expression (g : Grammar) : Parse Node := do
  let first ← isolated (g .assignment)
  if ← nextIs "," then
    let others ← manyUntil (return !(← nextIs ",")) do
      let _ ← advance
      isolated (g .assignment)
    return .sequence (first :: others)
  else return first

end ProjectGauge.Script
