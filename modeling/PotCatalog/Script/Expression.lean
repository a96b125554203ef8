/-
  The grammar of expressions in scripts.

  From loose to tight: comma, assignment and arrow functions, conditional,
  operators with two operands by their levels, operators with one operand, calls
  and members, operands.  The head of an arrow function is read as an expression
  in parentheses and checked when the arrow comes.
-/
import PotCatalog.Script.Function

namespace PotCatalog.Script

open PotCatalog.Script.Parser

/-! ## Lists of expressions -/

/-- Reads expressions with commas between them. -/
def expression (rules : Rules) : Parser Expr := do
  let first ← rules .assignment
  if ← sees .comma then
    loop [first] fun items => do
      if ← eats .comma then return .inl ((← rules .assignment) :: items)
      else return .inr (.mk first.start (.sequence items.reverse))
  else return first

/-- Reads an expression in which `in` is an operator. -/
def fullExpression (rules : Rules) : Parser Expr := allowIn (expression rules)

/-- Reads an item that may be spread. -/
def item (rules : Rules) : Parser Expr := do
  let start ← here
  if ← eats .ellipsis then return .mk start (.spread (← allowIn (rules .assignment)))
  else rules .assignment

/-- Reads the arguments of a call with their parentheses. -/
def arguments (rules : Rules) : Parser (List Expr) := do
  expect .parenOpen
  let args ← loop [] fun (args : List Expr) => do
    if ← sees .parenClose then return .inr args.reverse
    if !args.isEmpty then
      expect .comma
      if ← sees .parenClose then return .inr args.reverse
    return .inl ((← allowIn (item rules)) :: args)
  expect .parenClose
  return args

/-- Reads the items of an array behind its bracket. -/
def arrayItems (rules : Rules) (start : Nat) : Parser (List Expr) :=
  loop [] fun (items : List Expr) => do
    if ← sees .bracketClose then return .inr items.reverse
    let offset ← here
    if ← eats .comma then return .inl (.mk offset .hole :: items)
    let items := (← allowIn (item rules)) :: items
    if !(← sees .bracketClose) then
      expect .comma
      if ← sees .bracketClose then
        modify fun s => { s with finalCommas := (start, s.previous.1) :: s.finalCommas }
    return .inl items

/-! ## Objects -/

/-- Reads a member of an object whose name is one of the words that announce a
    method, and is followed by something that makes it one. -/
def announcedMethod (rules : Rules) (start : Nat) (name : String) : Parser Expr := do
  let wanted := "... , *,  (, [, :, , ?, = or an identifier"
  match accessor? name with
  | some a =>
    let key ← memberKey rules
    methodRest rules start key {} (a.check key.start)
  | none =>
    if name == "async" then
      let isGenerator ← eats .times
      let key ← memberKey rules
      plainMethod rules start key { isAsync := true, isGenerator := isGenerator }
    else failUnexpected wanted

/-- Reads a member of an object. -/
def objectMember (rules : Rules) : Parser Expr := do
  let start ← here
  if ← eats .ellipsis then return .mk start (.spread (← allowIn (rules .assignment)))
  if ← eats .times then
    let key ← memberKey rules
    return ← plainMethod rules start key { isGenerator := true }
  let key ← memberKey rules
  if ← eats .colon then return .mk start (.pair key (← allowIn (rules .assignment)))
  if ← sees .parenOpen then return ← plainMethod rules start key {}
  match key.form with
  | .name name =>
    match ← token with
    | .mark .assign | .mark .comma | .mark .braceClose =>
      if isReserved (← mode) name then note .reservedShorthand key.start
      if ← eats .assign then
        let value ← allowIn (rules .assignment)
        modify fun s => { s with openDefaults := start :: s.openDefaults }
        return .mk start (.shorthandDefault name value)
      else return .mk start (.shorthand name)
    | _ => announcedMethod rules start name
  | _ => failUnexpected "identifier"

/-- Reads an object from its brace. -/
def objectLiteral (rules : Rules) : Parser Expr := do
  let start ← here
  expect .braceOpen
  let (members, _) ← membersToBrace (objectMember rules)
  return .mk start (.object members)

/-! ## Templates -/

/-- Reads the substitutions of a template.  Bad escapes are allowed if the
    template has a tag. -/
def templateParts (rules : Rules) (isTagged : Bool) : Parser (List Expr) :=
  loop [] fun (parts : List Expr) => do
    match ← token with
    | .template last escape =>
      if let some failure := escape then
        if !isTagged then throw failure
      bump
      if last then return .inr parts.reverse
      let part ← fullExpression rules
      if ← sees .braceClose then
        reread (Lexeme.asTemplate (← get).size)
        return .inl (part :: parts)
      else failUnexpected "`\x7d`"
    | .invalid failure => throw failure
    | _ => fail .noExpression

/-! ## Parentheses and arrow functions -/

/-- Reads items in parentheses: the items, and where a comma behind the last
    one stands. -/
def parenItems (rules : Rules) : Parser (List Expr × Option Nat) := do
  expect .parenOpen
  let result ← loop (([], none) : List Expr × Option Nat) fun (items, final) => do
    if ← sees .parenClose then return .inr (items.reverse, final)
    let start ← here
    modify fun s => { s with arrowStart := some start }
    let items := (← item rules) :: items
    if ← sees .parenClose then return .inl (items, none)
    expect .comma
    let comma := (← get).previous.1
    return .inl (items, if ← sees .parenClose then some comma else none)
  expect .parenClose
  return result

/-- Checks items as the parameters of an arrow function. -/
def checkParameters (rules : Rules) (final : Option Nat) : List Expr → Parser Unit
  | [] => return
  | .mk start (.spread value) :: rest => do
    if rest.isEmpty then
      if value.form.isAssignment then note .restInitializer start
      if let some comma := final then note .commaAfterRest comma
      rules (.target .bound value)
    else note .restParameterNotLast start
    checkParameters rules final rest
  | e :: rest => do
    rules (.target .bound e)
    checkParameters rules final rest

/-- The name that a parameter binds, if it is one name. -/
def Expr.boundName? : Expr → Option (Nat × String)
  | .mk start (.name name) => some (start, name)
  | .mk _ (.assign _ (.mk start (.name name)) _) => some (start, name)
  | .mk _ (.spread (.mk start (.name name))) => some (start, name)
  | _ => none

/-- Notes parameters that strict code cannot bind. -/
def checkStrictNames (params : List Expr) : Parser Unit := do
  if (← mode).strict then
    for param in params do
      if let some (start, name) := param.boundName? then
        if isStrictBinding name then note .strictBinding start

/-- Notes the members with a default of the objects among items that are no
    parameters. -/
def noteDefaults (items : List Expr) : Parser Unit := do
  for e in items do
    if let .object members := e.form then
      for m in members do
        if let .shorthandDefault _ _ := m.form then note .strayDefault m.start

/-- The expression that items in parentheses stand for. -/
def parenthesized (start : Nat) (items : List Expr) : Parser Expr := do
  if items.isEmpty then failAt .emptyParentheses start
  for e in items do
    if let .spread _ := e.form then failAt .spreadInParentheses e.start
  match items with
  | [e] => return .mk start (.paren e)
  | first :: _ => return .mk start (.paren (.mk first.start (.sequence items)))
  | [] => return .mk start .missing

/-- Reads an expression in parentheses or an arrow function that starts with
    one.  Behind the word `async`, whose offset is given, it is a call of a
    function of that name unless an arrow follows. -/
def parenOrArrow (rules : Rules) (arrowAllowed : Bool) (asyncStart : Option Nat) :
    Parser Expr := do
  let start := asyncStart.getD (← here)
  let (items, final) ← allowIn (parenItems rules)
  if ← sees .arrow then
    closingDefaults start do
      if ← lineBreakHere then failAt .arrowLineBreak start
      if !arrowAllowed then failAt .strayArrow start
      expect .arrow
      checkParameters rules final items
      checkStrictNames items
      return .mk start (.arrow items (← arrowBody rules asyncStart.isSome items))
  else
    noteDefaults items
    match asyncStart with
    | some _ => return .mk start (.call (.mk start (.name "async")) items)
    | none => parenthesized start items

/-! ## Operands -/

/-- Reads an arrow function with one parameter, or a plain name. -/
def nameOrArrow (rules : Rules) (arrowAllowed : Bool) : Parser Expr := do
  let start ← here
  let m ← mode
  let name ← variableName (!m.inGenerator) (!m.inAsync)
  let plain := Expr.mk start (.name name)
  if arrowAllowed && name == "async" && (← seesName) && !(← lineBreakHere) then
    if m.inLoopHead && (← seesWord "of") && (← tokenAhead) != .mark .arrow then
      if !m.inAwaitLoopHead then note .asyncLoopHead (← get).previous.1
      return plain
    closingDefaults start do
      let param ← bindingName false
      expect .arrow
      return .mk start (.arrow [param] (← arrowBody rules true [param]))
  else if arrowAllowed && !(← lineBreakHere) && (← sees .arrow) then
    closingDefaults start do
      bump
      if isStrictBinding name then noteStrict .strictBinding start
      return .mk start (.arrow [plain] (← arrowBody rules false [plain]))
  else return plain

/-- Reads an operand that starts with a word. -/
def wordOperand (rules : Rules) (start : Nat) (arrowAllowed : Bool) (w : String) :
    Parser Expr := do
  let constant (form : Form) : Parser Expr := do
    bump
    return .mk start form
  match w with
  | "this" => constant .this
  | "null" => constant (.constant .null)
  | "true" => constant (.constant (.boolean true))
  | "false" => constant (.constant (.boolean false))
  | "function" => functionExpression rules start false
  | "class" => classFrom rules start false
  | _ =>
    if w == "async" then
      let next ← tokenAhead
      let broken ← lineBreakAhead
      if next == .word "function" && !broken then
        bump
        return ← functionExpression rules start true
      if arrowAllowed && next == .mark .parenOpen && !broken then
        bump
        return ← parenOrArrow rules arrowAllowed (some start)
    if w == "let" || (← seesName) then nameOrArrow rules arrowAllowed
    else fail .noExpression

/-- Reads an operand. -/
def operand (rules : Rules) : Parser Expr := do
  let start ← here
  let arrowAllowed := (← get).arrowStart == some start
  match ← token with
  | .word w => wordOperand rules start arrowAllowed w
  | .text value written =>
    bump
    return .mk start (.text value written)
  | .number =>
    bump
    return .mk start (.constant .number)
  | .bigInteger =>
    bump
    return .mk start (.constant .bigInteger)
  | .template _ _ => return .mk start (.template (← templateParts rules false))
  | .mark .bracketOpen =>
    bump
    let items ← arrayItems rules start
    expect .bracketClose
    return .mk start (.array items)
  | .mark .braceOpen => objectLiteral rules
  | .mark .parenOpen => parenOrArrow rules arrowAllowed none
  | .mark .hash =>
    let key ← privateKey
    return key
  | .mark .divide | .mark (.assignWith "/=") =>
    reread Lexeme.asPattern
    match ← token with
    | .invalid failure =>
      bump
      throw failure
    | _ =>
      bump
      return .mk start (.constant .pattern)
  | .invalid failure =>
    bump
    throw failure
  | _ => fail .noExpression

/-! ## Members and calls -/

/-- Whether an expression is an arrow function. -/
def Expr.isArrow : Expr → Bool
  | .mk _ (.arrow _ _) => true
  | _ => false

/-- Whether an expression ends an optional chain. -/
def Expr.isOptional : Expr → Bool
  | .mk _ (.optionalMember _ _) | .mk _ (.optionalCall _ _) => true
  | _ => false

/-- A member of an expression; `super` has members in methods only. -/
def memberOf (subject key : Expr) (optional : Bool) : Parser Expr := do
  match subject.form with
  | .base => if !(← mode).superAllowed then failAt .badSuper subject.start
  | _ => pure ()
  let form :=
    if optional || subject.isOptional then Form.optionalMember subject key
    else .member subject key
  return .mk subject.start form

/-- A call of an expression. -/
def callOf (callee : Expr) (args : List Expr) (optional : Bool) : Parser Expr := do
  match callee.form with
  | .loader => if args.isEmpty || 2 < args.length then failAt .importArguments callee.start
  | _ => pure ()
  let form :=
    if optional || callee.isOptional then Form.optionalCall callee args else .call callee args
  return .mk callee.start form

/-- Reads one member, call or template behind an expression, if there is one. -/
def subscript (rules : Rules) (calls : Bool) (subject : Expr) : Parser (Expr ⊕ Expr) := do
  let optional ← eats .optionalChain
  if ← eats .bracketOpen then
    let offset := (← get).previous.1
    let key ← fullExpression rules
    expect .bracketClose
    return .inl (← memberOf subject (.mk offset (.computed key)) optional)
  if (optional || calls) && (← sees .parenOpen) then
    return .inl (← callOf subject (← arguments rules) optional)
  if optional || (← sees .dot) then
    if !optional then bump
    let start ← here
    let key ← if ← sees .hash then privateKey else (Expr.mk start ∘ Form.name) <$> anyWord
    return .inl (← memberOf subject key optional)
  match subject.form with
  | .base => fail .badSuper
  | .loader => fail .badImport
  | _ =>
    match ← token with
    | .template _ _ =>
      let parts ← templateParts rules true
      if subject.isOptional then note .optionalTemplate subject.start
      return .inl (.mk subject.start (.tagged subject parts))
    | _ => return .inr subject

/-- Reads the members, calls and templates behind an expression. -/
def subscripts (rules : Rules) (calls : Bool) (subject : Expr) : Parser Expr :=
  loop subject (subscript rules calls)

/-- Reads what follows the word `import` in an expression. -/
def importExpression (rules : Rules) (start : Nat) (calls : Bool) : Parser Expr := do
  if ← eats .dot then
    markModule
    match ← anyWord with
    | "meta" => subscripts rules calls (.mk start .metaProperty)
    | "defer" | "source" => subscripts rules calls (.mk start .loader)
    | _ => failUnexpected "meta"
  else subscripts rules calls (.mk start .loader)

/-- Reads what follows the word `new`. -/
def construction (rules : Rules) (start : Nat) : Parser Expr := do
  if ← eats .dot then
    if ← eatsWord "target" then
      let m ← mode
      if !(m.inPlainFunction || m.inParameters || m.inClass) then note .newTarget start
      subscripts rules false (.mk start .metaProperty)
    else failUnexpected "target"
  else
    let callee ← rules .subject
    if callee.isArrow then return callee
    if callee.isOptional then failAt .optionalConstructor callee.start
    if ← sees .parenOpen then
      let args ← arguments rules
      subscripts rules false (.mk start (.construct callee args))
    else return .mk start (.construct callee [])

/-- Reads `super` or `import` with what follows, if one of them stands here. -/
def specialSubject (rules : Rules) (start : Nat) (calls : Bool) : Parser (Option Expr) := do
  if ← eatsWord "super" then return some (← subscripts rules calls (.mk start .base))
  if ← eatsWord "import" then return some (← importExpression rules start calls)
  return none

/-- Reads an operand with its members, possibly behind `new`. -/
def subjectExpression (rules : Rules) : Parser Expr := do
  let start ← here
  if ← eatsWord "new" then construction rules start
  else
    match ← specialSubject rules start false with
    | some e => return e
    | none =>
      let e ← operand rules
      if e.isArrow then return e else subscripts rules false e

/-- Reads an operand with its members and calls. -/
def leftHandSide (rules : Rules) : Parser Expr := do
  let start ← here
  match ← specialSubject rules start true with
  | some e => return e
  | none =>
    let callee ← rules .subject
    if callee.isArrow then return callee
    if ← sees .parenOpen then
      let call ← callOf callee (← arguments rules) false
      subscripts rules true call
    else return callee

/-! ## Operators -/

/-- Reads an `await` expression behind its word.  Outside of asynchronous
    functions the word is a name if nothing follows that it could apply to. -/
def awaitRest (rules : Rules) (start : Nat) (marks : Bool) : Parser Expr := do
  if ← sees .times then fail .awaitStar
  let m ← mode
  let ends ←
    match ← token with
    | .mark .parenClose | .mark .bracketClose | .mark .comma => pure true
    | _ => seesEnd
  if !m.inAsync && ends then
    if m.moduleCode then note .awaitName start
    return .mk start (.name "await")
  if marks && m.topLevel then markModule
  if m.inFunction && !m.inAsync then note .awaitInFunction start
  if m.inParameters && !m.inFunction then note .awaitInParameter start
  return .mk start (.await (← rules .unary))

/-- Reads an operand with the operators before and behind it that apply to it
    alone. -/
def unaryExpression (rules : Rules) : Parser Expr := do
  let start ← here
  let operator ← token
  if operator == .mark .increment || operator == .mark .decrement then
    bump
    let e ← rules .unary
    checkPlace e
    return .mk start (.update operator e)
  if operator.isPrefixOperator then
    bump
    let e ← tryCatch (rules .unary) fun failure => do
      note failure.fault failure.offset
      return .mk start .missing
    if operator == .word "delete" then
      if let .name _ := e.form then noteStrict .deleteName e.start
    return .mk start (.unary operator e)
  if ← eatsWord "await" then return ← awaitRest rules start true
  let e ← rules .leftHandSide
  if e.isArrow || (← lineBreakHere) then return e
  let operator ← token
  if operator == .mark .increment || operator == .mark .decrement then
    checkPlace e
    bump
    return .mk start (.update operator e)
  else return e

/-- The level of the current token as an operator with two operands. -/
def operatorLevel : Parser (Option Nat) := do
  match ← token with
  | .word "in" => return if (← mode).inAllowed then some 7 else none
  | .word "instanceof" => return some 7
  | t => return t.precedence?

/-- Whether an expression is a logical operation. -/
def Expr.isLogical : Expr → Bool
  | .mk _ (.binary (.mark .and) _ _) | .mk _ (.binary (.mark .or) _ _) => true
  | _ => false

/-- Whether an expression is an operation with `??`. -/
def Expr.isCoalescing : Expr → Bool
  | .mk _ (.binary (.mark .coalesce) _ _) => true
  | _ => false

/-- Whether an expression cannot be the left operand of `**`. -/
def Expr.isUnary : Expr → Bool
  | .mk _ (.unary _ _) | .mk _ (.await _) => true
  | _ => false

/-- Notes the mixture of `??` with logical operators. -/
def checkMixture (operator : Token) (left right : Expr) : Parser Unit := do
  if operator == .mark .coalesce then
    if left.isLogical then note .mixedCoalescing left.start
    if right.isLogical then note .mixedCoalescing right.start
  if operator == .mark .and || operator == .mark .or then
    if left.isCoalescing then note .mixedCoalescing left.start

/-- Reads operators that bind tighter than a level, behind their first operand.
    All but `**` group to the left. -/
def operators (rules : Rules) (left : Expr) (level : Nat) : Parser Expr :=
  loop left fun left => do
    match ← operatorLevel with
    | none => return .inr left
    | some own =>
      if own ≤ level then return .inr left
      let operator ← token
      bump
      if operator == .mark .power && left.isUnary then fail .unaryPower
      let first ← rules .unary
      let right ← rules (.operators first (if operator == .mark .power then own - 1 else own))
      checkMixture operator left right
      return .inl (.mk left.start (.binary operator left right))

/-- Reads operands with operators between them.  If the first operand cannot be
    read and an operator stands here, the operand counts as missing. -/
def operation (rules : Rules) : Parser Expr := do
  let first ← tryCatch (rules .unary) fun failure => do
    if (← operatorLevel).isSome then
      note .noExpression (← here)
      return .mk (← here) .missing
    else throw failure
  if first.isArrow then return first else rules (.operators first 0)

/-- Reads a conditional expression. -/
def conditional (rules : Rules) : Parser Expr := do
  let test ← operation rules
  if test.isArrow then return test
  if ← eats .question then
    let value ← allowIn (rules .assignment)
    expect .colon
    let otherwise ← rules .assignment
    return .mk test.start (.conditional test value otherwise)
  else return test

/-! ## Assignments -/

/-- Whether an expression can stand before an assignment sign. -/
def Form.canBeAssigned : Form → Bool
  | .name _ | .member _ _ | .paren _ | .optionalMember _ _ | .optionalCall _ _ | .missing => true
  | _ => false

/-- Whether an expression can only be read on its own. -/
def Form.isOperation : Form → Bool
  | .conditional _ _ _ | .binary _ _ _ | .unary _ _ | .update _ _ => true
  | _ => false

/-- Reads the assignment to a target, if there is one. -/
def assignmentRest (rules : Rules) (target : Expr) : Parser Expr := do
  let operator ← token
  let finish : Parser Expr := do
    bump
    return .mk target.start (.assign operator target (← rules .assignment))
  match operator with
  | .mark .assign =>
    rules (.target .assigned target)
    if target.form.isCollection || target.form.canBeAssigned then finish
    else failAt .badTarget target.start
  | .mark (.assignWith _) =>
    if !target.isPlace (← mode).strict then note .notAssignable target.start
    if target.form.canBeAssigned then finish else failAt .badTarget target.start
  | _ => return target

/-- The keywords that start an expression. -/
def expressionKeywords : List String :=
  ["class", "delete", "false", "function", "import", "new", "null", "super", "this", "true",
   "typeof", "void"]

/-- Whether a token can follow a `yield` that has an operand. -/
def Token.startsOperand : Token → Bool
  | .word w => !isKeyword w || expressionKeywords.contains w
  | .text _ _ | .number | .bigInteger | .pattern | .template _ _ | .invalid _ => true
  | .mark m =>
    [.parenOpen, .bracketOpen, .braceOpen, .not, .complement, .plus, .minus, .increment,
      .decrement, .times, .divide, .assignWith "/=", .hash].contains m
  | .endOfSource => false

/-- Reads a `yield` expression. -/
def yieldExpression (rules : Rules) : Parser Expr := do
  let start ← here
  bump
  let m ← mode
  if m.inParameters && !m.inFunction then failAt .yieldInParameter start
  if (← seesEnd) || !(← token).startsOperand then return .mk start (.yield none)
  let _ ← eats .times
  return .mk start (.yield (some (← rules .assignment)))

/-- Reads an expression without a comma. -/
def assignment (rules : Rules) : Parser Expr := do
  if (← mode).inGenerator && (← seesWord "yield") then return ← yieldExpression rules
  let start ← here
  let mayStartArrow :=
    match ← token with
    | .mark .parenOpen => true
    | .word w => !isKeyword w
    | _ => false
  if mayStartArrow then modify fun s => { s with arrowStart := some start }
  let e ← conditional rules
  if e.isArrow || e.form.isOperation then return e else assignmentRest rules e

end PotCatalog.Script
