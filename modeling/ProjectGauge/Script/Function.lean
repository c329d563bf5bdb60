import ProjectGauge.Script.Binding

/-!
# Functions and methods

A function has parameters and a body. The rules for `await` and `yield` in both depend on its kind.
-/

namespace ProjectGauge.Script

/-- The statements of quoted texts at the front of a body. -/
def directives (g : Grammar) : Parse Unit :=
  loop (fun _ => do
    match (← get).next, (← get).start.rest with
    | .text _, raw =>
      let statement ← expression g
      endStatement
      match statement with
      | .text _ => if raw.head? == raw.tail.head? then return .inr () else return .inl ()
      | _ => return .inr ()
    | _, _ => return .inr ()) ()

/-- The scope of the statements of a function. -/
def Scope.enterBody (scope : Scope) : Scope :=
  { scope with inFunction := true, inLoop := false, inSwitch := false, labels := [] }

/-- The scope behind the statements of a function. -/
def Scope.leaveBody (before after : Scope) : Scope :=
  { after with
    inFunction := before.inFunction
    inLoop := before.inLoop
    inSwitch := before.inSwitch
    labels := before.labels }

def functionBody (g : Grammar) : Parse Unit := do
  expect "\x7b"
  directives g
  within Scope.enterBody Scope.leaveBody do
    let _ ← manyUntil (return (← nextIs "\x7d") || (← get).next == .finish) (g .item)
    expect "\x7d"

/-- A function, which may have to have a name. -/
def function (g : Grammar) (needsName : Bool) : Parse Node := do
  let isAsync ← nextIsName "async"
  if isAsync then let _ ← advance
  expectKeyword "function"
  let isGenerator ← if isAsync then pure false else accept "*"
  if needsName || !(← nextIs "(") then let _ ← boundName
  within (fun scope => { scope with awaits := isAsync, yieldIsName := !isGenerator })
    restoreOperators do
      parameterList g
      functionBody g
  return .other

/-! ## Methods -/

def methodBody (g : Grammar) : Parse Unit := do
  setBindable false
  isolated (functionBody g)

/-- The parameters and the body of a method. -/
def method (g : Grammar) : Parse Unit :=
  within (fun scope => { scope with yieldIsName := true }) restoreOperators do
    parameterList g
    methodBody g

/-- The parameters and the body of an async method. -/
def asyncMethod (g : Grammar) : Parse Unit :=
  within (fun scope => { scope with awaits := true, yieldIsName := false }) restoreOperators do
    parameterList g
    methodBody g

/-- The parameters and the body of a generator method. -/
def generatorMethod (g : Grammar) : Parse Unit :=
  within (fun scope => { scope with yieldIsName := true }) restoreOperators do
    parameterList g
    modifyScope fun scope => { scope with yieldIsName := false }
    methodBody g

/-- The name, the parameters and the body of a method that reads a property. From here on `yield` is
an operator. -/
def getter (g : Grammar) : Parse Node := do
  let name ← propertyName g
  modifyScope fun scope => { scope with yieldIsName := false }
  method g
  return name

/-- The name, the parameters and the body of a method that writes a property. -/
def setter (g : Grammar) : Parse Node := do
  let name ← propertyName g
  method g
  return name

end ProjectGauge.Script
