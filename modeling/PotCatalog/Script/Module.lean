/-
  Whole scripts.

  Imports and exports stand outside of all other statements and make a script a
  module.  `parse` ties the rules of the grammar together.  Its answer is the
  failure that stopped the parsing, or else the first fault that was noted.
-/
import PotCatalog.Script.Statement

namespace PotCatalog.Script

open PotCatalog.Script.Parser

/-! ## Imports and exports -/

/-- The name of something that a module exports. -/
inductive ExportName where
  | word (start : Nat) (name : String)
  | text (start : Nat) (value : CodePoints)

/-- Reads the name of something that a module exports. -/
def exportName : Parser ExportName := do
  let start ← here
  match ← token with
  | .word w =>
    bump
    return .word start w
  | .text value _ =>
    bump
    return .text start value
  | _ => failUnexpected "identifier or string"

/-- Reads the attributes of an import, if there are any. -/
def importAttributes (rules : Rules) : Parser (Option Expr) := do
  if ← lineBreakHere then return none
  if (← seesWord "with") || (← seesWord "assert") then
    bump
    return some (← objectLiteral rules)
  else return none

/-- Reads the source of an import with its attributes, and ends the statement. -/
def importSource (rules : Rules) : Parser (Option Expr) := do
  match ← token with
  | .text _ _ =>
    bump
    let attributes ← importAttributes rules
    expectEnd
    return attributes
  | _ => failUnexpected "a string literal"

/-- Reads one name of an import, and what it is called here. -/
def importItem : Parser Unit := do
  match ← exportName with
  | .word start name =>
    if ← eatsWord "as" then
      let _ ← bindingName false
    else if isReserved (← mode) name then failAt .reservedImport start
  | .text start value =>
    if ← eatsWord "as" then
      let _ ← bindingName false
    else failAt (.textBinding (value.text?.getD "")) start

/-- Reads names up to a closing brace, with commas between them and possibly one
    behind them. -/
def namesToBrace {α : Type} (one : Parser α) : Parser (List α) := do
  let names ← loop [] fun (names : List α) => do
    if ← sees .braceClose then return .inr names.reverse
    let names := (← one) :: names
    if !(← sees .braceClose) then expect .comma
    return .inl names
  expect .braceClose
  return names

/-- Reads an import. -/
def importStatement (rules : Rules) : Parser Stmt := do
  enterModule
  bump
  if let .text _ _ ← token then return .link (← importSource rules)
  if ← seesName then
    let _ ← bindingName false
    if !(← seesWord "from") then expect .comma
  if ← eats .times then
    expectWord "as"
    let _ ← bindingName false
  else if ← eats .braceOpen then
    let _ ← namesToBrace importItem
  expectWord "from"
  return .link (← importSource rules)

/-- Reads one name of an export, and what it is called outside. -/
def exportItem : Parser ExportName := do
  let name ← exportName
  if ← eatsWord "as" then
    let _ ← exportName
  return name

/-- Notes a name that cannot be exported as a variable of this module. -/
def checkExport : ExportName → Parser Unit
  | .word start name => if isKeyword name then note (.reservedExport name) start else return
  | .text start _ => note .textExport start

/-- Reads an export of names. -/
def exportNames (rules : Rules) : Parser Stmt := do
  expect .braceOpen
  let names ← namesToBrace exportItem
  if ← eatsWord "from" then return .link (← importSource rules)
  for name in names do checkExport name
  let _ ← eatsEnd
  return .link none

/-- Reads an export of all that another module exports. -/
def exportAll (rules : Rules) : Parser Stmt := do
  if ← eatsWord "as" then
    let _ ← exportName
  expectWord "from"
  return .link (← importSource rules)

/-- Whether an asynchronous function stands here. -/
def seesAsyncFunction : Parser Bool := do
  if ← seesWord "async" then
    return (← tokenAhead) == .word "function" && !(← lineBreakAhead)
  else return false

/-- Reads what is exported as the default.  A function or a class needs no
    name. -/
def exportDefault (rules : Rules) : Parser Stmt := do
  let start ← here
  if ← seesWord "class" then return .exportDefault (← classFrom rules start false)
  if ← seesWord "function" then return .exportDefault (← functionExpression rules start false)
  if ← seesAsyncFunction then
    bump
    return .exportDefault (← functionExpression rules start true)
  let value ← allowIn (rules .assignment)
  expectEnd
  return .exportDefault value

/-- Reads an export. -/
def exportStatement (rules : Rules) : Parser Stmt := do
  enterModule
  bump
  let start ← here
  if (← token) == .endOfSource then fail .endOfSource
  if ← eats .times then return ← exportAll rules
  if ← eatsWord "default" then return ← exportDefault rules
  if ← seesWord "class" then return .exporting (.define (← classFrom rules start true))
  if ← seesWord "function" then
    return .exporting (.define (← functionDeclaration rules start false))
  if ← seesAsyncFunction then
    bump
    return .exporting (.define (← functionDeclaration rules start true))
  if ← seesVariables then return .exporting (← variableStatement rules)
  exportNames rules

/-- Reads a statement outside of all other statements. -/
def outerStatement (rules : Rules) : Parser Stmt := do
  match ← token with
  | .word "export" => exportStatement rules
  | .word "import" =>
    let next ← tokenAhead
    if next == .mark .parenOpen || next == .mark .dot then rules (.statement true)
    else importStatement rules
  | _ => rules (.statement true)

/-- Reads all statements of a script. -/
def program (rules : Rules) : Parser (List Stmt) := do
  let strict := (← token).isStrictDirective
  inside (fun m => { m with strict := m.strict || strict, topLevel := true }) <|
    loop [] fun (body : List Stmt) => do
      if (← token) == .endOfSource then return .inr body.reverse
      return .inl ((← outerStatement rules) :: body)

/-! ## Parsing -/

/-- The rules of the grammar over rules for their parts. -/
def rulesOver (rules : Rules) : Rules
  | .assignment => assignment rules
  | .unary => unaryExpression rules
  | .operators left level => operators rules left level
  | .subject => subjectExpression rules
  | .leftHandSide => leftHandSide rules
  | .binding letForbidden => bindingTarget rules letForbidden
  | .target role e => checkTarget rules role e
  | .statement declarations => statement rules declarations

/-- The rules of the grammar for constructs that are nested up to a depth. -/
def rulesTo : Nat → Rules
  | 0 => fun _ => throw ⟨.endOfSource, 0⟩
  | n + 1 => rulesOver (rulesTo n)

/-- The state at the start of a script. -/
def initialState (text : List Char) : State :=
  let (lexeme, notices) := Lexeme.leading text
  notices.foldl recordNotice
    { size := text.length
      current := lexeme
      ahead := none
      previous := (0, 0)
      mode := {}
      labels := []
      noted := []
      heldBack := []
      isModule := false
      arrowStart := none
      openDefaults := []
      finalCommas := [] }

/-- A bound for the depth of nesting: a character adds less than ten levels. -/
def depthFor (text : List Char) : Nat := 10 * (text.length + 10)

/-- Parses a script. -/
def parse (text : List Char) : Except Failure Program :=
  let (result, s) := program (rulesTo (depthFor text)) (initialState text)
  match result with
  | .error failure => .error failure
  | .ok body =>
    let noted := s.noted.reverse ++ if s.isModule then s.heldBack.reverse else []
    match noted with
    | failure :: _ => .error failure
    | [] => .ok ⟨s.isModule, body⟩

end PotCatalog.Script
