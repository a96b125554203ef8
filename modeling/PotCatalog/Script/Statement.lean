/-
  The grammar of statements in scripts.

  A statement ends at a semicolon, before a closing brace, at a line break or
  with the script.  Where a statement is the body of another one, declarations
  are no statements.
-/
import PotCatalog.Script.Expression

namespace PotCatalog.Script

open PotCatalog.Script.Parser

/-! ## Declarations -/

/-- The words that declare variables. -/
inductive VariableKind where
  | var
  | letVariable
  | const
  deriving DecidableEq, Repr

/-- Reads the initial value of a variable. -/
def initialValue (rules : Rules) : Parser Expr := do
  let value ← rules .assignment
  reportDefaults value.start
  return value

/-- Reads a variable with its initial value.  Constants and patterns need one,
    except in the head of a loop over something. -/
def declarator (rules : Rules) (kind : VariableKind) (inHead : Bool) : Parser Expr := do
  let target ← rules (.binding (kind != .var))
  let overSomething := (← seesWord "in") || (← seesWord "of")
  let value ←
    if inHead && overSomething then pure none
    else if ← eats .assign then some <$> initialValue rules
    else
      if kind == .const && !inHead then note .constInitializer target.start
      else if !target.isPlainName then failAt .patternInitializer target.start
      pure none
  return .mk target.start (.declarator target value)

/-- Reads declared variables with commas between them. -/
def declarators (rules : Rules) (kind : VariableKind) (inHead : Bool) (wordStart : Nat) :
    Parser (List Expr) :=
  loop [] fun (found : List Expr) => do
    if ← sees .semicolon then
      let (start, stop) := (← get).previous
      note .trailingComma (if start = wordStart then stop else start)
      return .inr found.reverse
    let one := declarator rules kind inHead
    let next ← if kind == .var && inHead then one else allowIn one
    let found := next :: found
    if ← eats .comma then return .inl found else return .inr found.reverse

/-- The kind of variables that a word declares. -/
def variableKind : String → VariableKind
  | "let" => .letVariable
  | "const" => .const
  | _ => .var

/-- Reads a declaration of variables from its word. -/
def declaration (rules : Rules) (inHead : Bool) : Parser (List Expr) := do
  let start ← here
  let kind := variableKind ((← token).word?.getD "")
  bump
  declarators rules kind inHead start

/-- Moves to the end of a statement. -/
def skipToEnd : Parser Unit :=
  loop () fun _ => do
    if ← eatsEnd then return .inr ()
    bump
    match ← token with
    | .invalid _ => return .inr ()
    | _ => return .inl ()

/-- Reads a declaration of variables as a statement. -/
def variableStatement (rules : Rules) : Parser Stmt := do
  let found ← declaration rules false
  if !(← eatsEnd) then
    note .noSemicolon (← here)
    tryCatch (do let _ ← expression rules) fun _ => return
    skipToEnd
  return .declare found

/-- Whether the word `let` declares something here. -/
def letDeclares : Parser Bool := do
  match ← tokenAhead with
  | .word w => return !isKeyword w
  | .mark .bracketOpen | .mark .braceOpen => return true
  | _ => return false

/-- Whether a declaration of variables stands here. -/
def seesVariables : Parser Bool := do
  match ← token with
  | .word "var" | .word "const" => return true
  | .word "let" => letDeclares
  | _ => return false

/-- Reads a declaration of resources that are given back at the end of a block,
    which is not accepted. -/
def usingStatement (rules : Rules) (start : Nat) : Parser Stmt := do
  bump
  let found ← declarators rules .var false start
  note .usingDeclaration start
  for d in found do
    if let .declarator target value := d.form then
      if !target.isPlainName then note .usingPattern start
      if value.isNone then note .usingInitializer start
  expectEnd
  return .declare found

/-! ## Parts of statements -/

/-- The surroundings of the body of a statement. -/
def nestedMode (m : Mode) : Mode := { m with topLevel := false }

/-- The surroundings of the body of a loop. -/
def loopMode (m : Mode) : Mode :=
  { m with topLevel := false, breakAllowed := true, continueAllowed := true }

/-- Reads an expression in parentheses. -/
def condition (rules : Rules) : Parser Expr := do
  expect .parenOpen
  let e ← fullExpression rules
  expect .parenClose
  return e

/-- Reads a body in which declarations are no statements. -/
def nested (rules : Rules) (change : Mode → Mode) : Parser Stmt :=
  inside change (rules (.statement false))

/-! ## Loops -/

/-- The head of a loop. -/
inductive LoopHead where
  | counted (init : Option Stmt) (test step : Option Expr)
  | through (isItems : Bool) (target : Stmt) (subject : Expr)

/-- Reads the test and the step of a loop. -/
def countedHead (rules : Rules) (init : Option Stmt) : Parser LoopHead := do
  let test ←
    if ← eats .semicolon then pure none
    else
      let test ← fullExpression rules
      let _ ← eats .semicolon
      pure (some test)
  let step ← if ← sees .parenClose then pure none else some <$> fullExpression rules
  return .counted init test step

/-- Reads what a loop goes over, from the word before it. -/
def overHead (rules : Rules) (target : Stmt) : Parser LoopHead := do
  if ← eatsWord "of" then return .through true target (← allowIn (rules .assignment))
  bump
  return .through false target (← fullExpression rules)

/-- Notes what is wrong with variables that a loop goes over. -/
def checkLoopVariables (isItems : Bool) : List Expr → Parser Unit
  | [.mk start (.declarator _ (some _))] => do
    if (← mode).strict || isItems then note .loopInitializer start
  | _ :: rest => do for d in rest do note .oneBinding d.start
  | [] => return

/-- Reads the head of a loop between its parentheses. -/
def loopHead (rules : Rules) : Parser LoopHead := do
  if ← seesVariables then
    let found ← declaration rules true
    let isItems ← seesWord "of"
    if isItems || (← seesWord "in") then
      checkLoopVariables isItems found
      overHead rules (.declare found)
    else
      expect .semicolon
      countedHead rules (some (.declare found))
  else if ← eats .semicolon then countedHead rules none
  else
    let e ← inside (fun m => { m with inAllowed := false }) (expression rules)
    if (← seesWord "of") || (← seesWord "in") then
      rules (.target .assigned e)
      overHead rules (.expr e)
    else
      expect .semicolon
      reportDefaults e.start
      countedHead rules (some (.expr e))

/-- Reads a `for` loop. -/
def forStatement (rules : Rules) : Parser Stmt := do
  bump
  let awaitStart ← here
  let isAwait ← eatsWord "await"
  expect .parenOpen
  let head ← inside (fun m => { m with inLoopHead := true, inAwaitLoopHead := isAwait }) <|
    loopHead rules
  expect .parenClose
  let body ← nested rules loopMode
  match head with
  | .through isItems target subject =>
    if isAwait && !isItems then failAt .awaitLoop awaitStart
    return .forEach target subject body
  | .counted init test step =>
    if isAwait then failAt .awaitLoop awaitStart
    return .forLoop init test step body

/-- Reads a `while` loop. -/
def whileStatement (rules : Rules) : Parser Stmt := do
  bump
  let test ← condition rules
  return .whileLoop test (← nested rules loopMode)

/-- Reads a `do` loop, behind which there need not be a semicolon. -/
def doStatement (rules : Rules) : Parser Stmt := do
  bump
  let body ← nested rules loopMode
  expectWord "while"
  let test ← condition rules
  let _ ← eats .semicolon
  return .doLoop test body

/-! ## Branches -/

/-- Reads an `if` statement. -/
def ifStatement (rules : Rules) : Parser Stmt := do
  bump
  let test ← condition rules
  let body ← nested rules nestedMode
  let otherwise ← if ← eatsWord "else" then some <$> nested rules nestedMode else pure none
  return .ifElse test body otherwise

/-- Reads the statements of a case. -/
def caseBody (rules : Rules) : Parser (List Stmt) :=
  inside nestedMode <| loop [] fun (body : List Stmt) => do
    match ← token with
    | .word "case" | .word "default" | .mark .braceClose => return .inr body.reverse
    | _ => return .inl ((← rules (.statement true)) :: body)

/-- Reads the cases of a `switch` statement. -/
def cases (rules : Rules) : Parser (List Stmt) :=
  loop (([], false) : List Stmt × Bool) fun (found, defaulted) => do
    if ← eatsWord "case" then
      let test ← fullExpression rules
      expect .colon
      return .inl (.switchCase (some test) (← caseBody rules) :: found, defaulted)
    else if ← eatsWord "default" then
      if defaulted then fail .secondDefault
      expect .colon
      return .inl (.switchCase none (← caseBody rules) :: found, true)
    else return .inr found.reverse

/-- Reads a `switch` statement. -/
def switchStatement (rules : Rules) : Parser Stmt := do
  bump
  let subject ← condition rules
  expect .braceOpen
  let found ← inside (fun m => { m with breakAllowed := true }) (cases rules)
  expect .braceClose
  return .switch subject found

/-- Reads a handler of exceptions, if there is one. -/
def handler (rules : Rules) : Parser (Option Stmt) := do
  if ← eatsWord "catch" then
    let param ←
      if ← eats .parenOpen then
        let param ← rules (.binding false)
        expect .parenClose
        pure (some param)
      else pure none
    return some (.handler param (.block (← block rules false)))
  else return none

/-- Reads what is done after a `try` statement in any case, if there is
    something. -/
def cleanup (rules : Rules) : Parser (Option Stmt) := do
  if ← eatsWord "finally" then return some (.block (← block rules false)) else return none

/-- Reads a `try` statement. -/
def tryStatement (rules : Rules) : Parser Stmt := do
  bump
  let body ← block rules false
  let start ← here
  let caught ← handler rules
  let last ← cleanup rules
  if caught.isNone && last.isNone then note .noSemicolon start
  return .tryCatch (.block body) caught last

/-- Reads a handler or a cleanup that belongs to no `try` statement. -/
def strayHandler (rules : Rules) : Parser Stmt := do
  note .noSemicolon (← here)
  tryCatch (do let _ ← handler rules) fun _ => return
  tryCatch (do let _ ← cleanup rules) fun _ => return
  return .empty

/-! ## Jumps -/

/-- Reads a label. -/
def labelName : Parser String := do
  let m ← mode
  variableName (!m.inGenerator) (!m.inAsync)

/-- Reads the label behind a word, if there is one, and ends the statement. -/
def jumpLabel : Parser (Option String) := do
  if ← eatsEnd then return none
  let label ← labelName
  expectEnd
  return some label

/-- Whether a label belongs to no statement around. -/
def isForeign (labels : List String) : Option String → Bool
  | some label => !labels.contains label
  | none => false

/-- Reads a `break` statement. -/
def breakStatement (start : Nat) : Parser Stmt := do
  bump
  let label ← jumpLabel
  let s ← get
  if isForeign s.labels label then note .breakTarget start
  else if !s.mode.breakAllowed then note .strayBreak start
  return .jump

/-- Reads a `continue` statement. -/
def continueStatement (start : Nat) : Parser Stmt := do
  bump
  let label ← jumpLabel
  let s ← get
  if !s.mode.continueAllowed then note .strayContinue start
  else if isForeign s.labels label then note .continueTarget start
  return .jump

/-- Reads a `return` statement. -/
def returnStatement (rules : Rules) (start : Nat) : Parser Stmt := do
  bump
  let value ← if ← seesEnd then pure none else some <$> fullExpression rules
  expectEnd
  if !(← mode).inFunction then note .strayReturn start
  return .returning value

/-- Reads a `throw` statement, whose value stands on the same line. -/
def throwStatement (rules : Rules) : Parser Stmt := do
  bump
  if ← lineBreakHere then fail .throwLineBreak
  let value ← fullExpression rules
  expectEnd
  return .throwing value

/-! ## Other statements -/

/-- Reads a `with` statement, which strict code has not. -/
def withStatement (rules : Rules) (start : Nat) : Parser Stmt := do
  noteStrict .withInStrict start
  bump
  let scope ← condition rules
  let body ← nested rules fun m => { m with topLevel := false, inFunction := true }
  return .withScope scope body

/-- Reads a statement behind its label.  A function can have a label in sloppy
    code. -/
def labelledStatement (rules : Rules) (start : Nat) (label : String) : Parser Stmt :=
  inside (fun m => { m with breakAllowed := true, inAllowed := true }) do
    let outer := (← get).labels
    modify fun s => { s with labels := label :: s.labels }
    let body ←
      if ← seesWord "function" then
        let offset ← here
        let isGenerator := (← tokenAhead) == .mark .times
        let f ← functionDeclaration rules offset false
        if (← mode).strict then note .declaration offset
        if isGenerator then note .labelledGenerator offset
        pure (.define f)
      else rules (.statement false)
    if outer.contains label then note (.repeatedLabel label) start
    modify fun s => { s with labels := outer }
    return .labelled label body

/-- Reads a statement that starts with an expression: a labelled statement, or
    the expression itself. -/
def expressionStatement (rules : Rules) (start : Nat) : Parser Stmt := do
  let e ← fullExpression rules
  match e.form with
  | .name name => if ← eats .colon then return ← labelledStatement rules start name
  | _ => reportDefaults e.start
  if ← eatsEnd then return .expr e
  if (← token).precedence?.isSome then
    note .noSemicolon (← here)
    return .expr (← rules (.operators e 0))
  else fail .noSeparator

/-- Reads a statement that starts with `await`, at whose end there need not be
    a separator. -/
def awaitStatement (rules : Rules) (start : Nat) : Parser Stmt := do
  bump
  if (← mode).topLevel then markModule
  let e ← awaitRest rules start false
  let e ← allowIn (rules (.operators e 0))
  let _ ← eats .semicolon
  return .expr e

/-- Reads `import` or `export` inside of another statement, where only the
    expressions that start with `import` are allowed. -/
def nestedModuleWord (rules : Rules) : Parser Stmt := do
  let isImport ← seesWord "import"
  let next ← tokenAhead
  if isImport && (next == .mark .parenOpen || next == .mark .dot) then
    let e ← expression rules
    let _ ← eatsEnd
    return .expr e
  else fail .nestedModuleItem

/-- Reads a declaration of a function or a class; where it is not allowed, that
    is noted. -/
def definition (declarations : Bool) (start : Nat) (p : Parser Expr) : Parser Stmt := do
  if !declarations then note .declaration start
  return .define (← p)

/-- Whether a word starts a declaration of resources here. -/
def seesUsing : Parser Bool := do
  if ← lineBreakAhead then return false
  match ← tokenAhead with
  | .word w => return !isReserved (← mode) w
  | _ => return false

/-- Reads a statement that starts with a word. -/
def wordStatement (rules : Rules) (declarations : Bool) (start : Nat) (w : String) :
    Parser Stmt := do
  let plain := expressionStatement rules start
  match w with
  | "await" => if declarations then awaitStatement rules start else plain
  | "break" => breakStatement start
  | "continue" => continueStatement start
  | "debugger" =>
    bump
    expectEnd
    return .jump
  | "do" => doStatement rules
  | "for" => forStatement rules
  | "function" => definition declarations start (functionDeclaration rules start false)
  | "class" => definition declarations start (classFrom rules start true)
  | "if" => ifStatement rules
  | "return" => returnStatement rules start
  | "switch" => switchStatement rules
  | "throw" => throwStatement rules
  | "catch" | "finally" => strayHandler rules
  | "try" => tryStatement rules
  | "with" => withStatement rules start
  | "while" => whileStatement rules
  | "var" => variableStatement rules
  | "const" => if declarations then variableStatement rules else plain
  | "let" => if declarations && (← letDeclares) then variableStatement rules else plain
  | "using" => if declarations && (← seesUsing) then usingStatement rules start else plain
  | "import" | "export" => nestedModuleWord rules
  | "async" =>
    if (← tokenAhead) == .word "function" && !(← lineBreakAhead) then
      bump
      return .define (← functionDeclaration rules start true)
    else plain
  | _ => plain

/-- Reads a statement. -/
def statement (rules : Rules) (declarations : Bool) : Parser Stmt := do
  let start ← here
  match ← token with
  | .word w => wordStatement rules declarations start w
  | .mark .braceOpen => return .block (← block rules false)
  | .mark .semicolon =>
    bump
    return .empty
  | _ => expressionStatement rules start

end PotCatalog.Script
