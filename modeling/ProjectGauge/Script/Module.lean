import ProjectGauge.Script.Statement

/-!
# Modules

A module is a list of statements and declarations. Import and export declarations may stand anywhere
but in functions and where a statement depends on another; only those of the module itself say what it
imports.

* `importSources` lists the sources of the import declarations of a module.
-/

namespace ProjectGauge.Script

/-! ## Imports and exports -/

def moduleSource : Parse (List Char) := do
  match ← advance with
  | .text source => return source
  | _ => reject

/-- The word `from` and the source of a module. -/
def fromSource : Parse (List Char) := do
  if !(← nextIsName "from") then unexpectedNext
  let _ ← advance
  moduleSource

/-- A name that is imported, perhaps under another one. A word that is no name needs another one. -/
def importName : Parse Unit := do
  match (← get).next with
  | .name _ =>
    let _ ← advance
    if ← nextIsName "as" then
      let _ ← advance
      let _ ← boundName
  | _ =>
    let _ ← anyWord
    expectToken (.name "as")
    let _ ← boundName

/-- The names that are imported, in braces. -/
def importNames : Parse Unit := do
  expect "\x7b"
  let _ ← commaList "\x7d" importName

/-- All that a module exports, imported under one name. -/
def importAll : Parse Unit := do
  expect "*"
  if (← advance) != .name "as" then reject
  let _ ← anyWord

/-- The default of a module, and perhaps more behind a comma. -/
def importDefault : Parse Unit := do
  if ← nextIsKeyword "default" then reject
  let _ ← anyWord
  if ← accept "," then
    if ← nextIs "*" then importAll
    else if ← nextIs "\x7b" then importNames
    else unexpectedNext

def importDeclaration : Parse Node := do
  if (← get).scope.inFunction then reject
  expectKeyword "import"
  let source ← match (← get).next with
    | .text _ => moduleSource
    | .sign "\x7b" => do
      importNames
      fromSource
    | .sign "*" => do
      importAll
      fromSource
    | _ => do
      importDefault
      fromSource
  endStatement
  return .importing source

/-- A name that is exported, perhaps under another one. The result tells whether it is `default`. -/
def exportName : Parse Bool := do
  let isDefault ← nextIsKeyword "default"
  let _ ← anyWord
  if ← nextIsName "as" then
    let _ ← advance
    let _ ← anyWord
  return isDefault

def exportDefault (g : Grammar) : Parse Unit := do
  match (← get).next with
  | .keyword "function" => let _ ← function g false
  | .keyword "class" => let _ ← classOf g false
  | .name "async" =>
    if ← startsAsyncFunction then let _ ← function g false
    else let _ ← assignment g
  | .name "from" => reject
  | .sign "\x7b" =>
    let _ ← tableLiteral g
    endStatement
  | .sign "[" =>
    let _ ← listLiteral g
    endStatement
  | _ =>
    let _ ← assignment g
    endStatement

/-- Names that are exported, perhaps from another module. The name `default` is one of another module
only. -/
def exportNames : Parse Unit := do
  let hasOnlyDefault ← match (← get).next with
    | .name _ => do
      let _ ← advance
      pure !(← accept ",")
    | _ => pure false
  let names ←
    if hasOnlyDefault then pure []
    else do
      expect "\x7b"
      commaList "\x7d" exportName
  if ← nextIsName "from" then
    let _ ← fromSource
  else if names.contains true then unexpectedNext
  endStatement

def exportedDeclaration (g : Grammar) (word : String) (item : Parse Node) : Parse Unit := do
  match word with
  | "let" => lexicalDeclaration g
  | "const" => lexicalDeclaration g
  | "var" => let _ ← item
  | "class" => let _ ← item
  | "function" => let _ ← item
  | _ => reject

def exportDeclaration (g : Grammar) : Parse Unit := do
  if (← get).scope.inFunction then reject
  expectKeyword "export"
  match (← get).next with
  | .keyword "default" =>
    let _ ← advance
    exportDefault g
  | .sign "*" =>
    let _ ← advance
    let _ ← fromSource
    endStatement
  | .keyword word => exportedDeclaration g word (g .item)
  | _ =>
    if ← startsAsyncFunction then let _ ← function g true
    else exportNames

/-! ## Items -/

/-- A statement or a declaration. -/
def item (g : Grammar) : Parse Node := do
  setBindable true
  match (← get).next with
  | .keyword "export" =>
    exportDeclaration g
    return .other
  | .keyword "import" =>
    if ← startsImportCall then
      expressionStatement g
      return .other
    else importDeclaration
  | .keyword "const" =>
    lexicalDeclaration g
    return .other
  | .keyword "function" => function g true
  | .keyword "class" => classOf g true
  | .keyword "let" =>
    if ← startsLexicalDeclaration then
      lexicalDeclaration g
      return .other
    else statement g
  | _ => statement g

/-- The phrases of the grammar, given those that they contain. -/
def phrase (g : Grammar) : Goal → Parse Node
  | .assignment => assignment g
  | .unary => unary g
  | .exponent => exponent g
  | .callee => callee g
  | .operand => operand g
  | .pattern => binding g
  | .statement => statement g
  | .item => item g
  | .element => element g

/-- The phrases of the grammar up to a depth of nesting. -/
def grammar : Nat → Goal → Nat → State → Except Rejection (Node × State)
  | 0, _, _, _ => .error .exhausted
  | depth + 1, goal, limit, state => phrase (grammar depth) goal limit state

/-! ## Modules -/

/-- The state in front of the first token. Remarks of HTML may stand in front of it, and it is not yet
seen as strict code sees it. -/
def initialState (text : List Char) : Except Rejection State :=
  let scanner := (Scanner.mk ⟨text, 1, true⟩ []).skipSpace true
  match scanner.token with
  | none => .error .grammar
  | some (token, after) => .ok {
      scanner := after
      next := token
      line := after.place.line
      start := scanner.place
      afterBreak := after.place.line != 1
      scope := ⟨false, true, true, false, false, false, []⟩
      cover := ⟨false, false⟩ }

def moduleItems (g : Grammar) : Parse (List Node) := do
  directives g
  manyUntil (return (← get).next == .finish) (g .item)

/-- A depth of nesting that no text of a length exceeds: each phrase takes a token within a few
steps. -/
def depthFor (text : List Char) : Nat :=
  16 * (text.length + 1)

/-- A number of steps that no list in a text of a length exceeds: each item takes a token. -/
def limitFor (text : List Char) : Nat :=
  text.length + 1

def Node.importSource? : Node → Option (List Char)
  | .importing source => some source
  | _ => none

/-- The sources of the import declarations of a module, in their order. -/
def importSources (text : List Char) : Except Rejection (List (List Char)) := do
  let (items, _) ← moduleItems (grammar (depthFor text)) (limitFor text) (← initialState text)
  return items.filterMap Node.importSource?

end ProjectGauge.Script
