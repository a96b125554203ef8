/-
  Targets: what values are bound or assigned to.

  In a declaration a target is read as one (`bindingTarget`).  In an assignment
  and in the head of an arrow function it is first read as an expression, and
  `checkTarget` notes what a target must not be.
-/
import PotCatalog.Script.Parser

namespace PotCatalog.Script

/-! ## Rules that refer to each other -/

/-- The places of a target that is checked. -/
inductive Role where
  /-- All that is assigned to. -/
  | assigned
  /-- A part of what is assigned to. -/
  | assignedPart
  /-- A whole parameter. -/
  | bound
  /-- A part of a parameter. -/
  | boundPart
  deriving DecidableEq, Repr

/-- The place of a part. -/
def Role.part : Role → Role
  | .assigned | .assignedPart => .assignedPart
  | .bound | .boundPart => .boundPart

/-- The rules of the grammar that can contain themselves. -/
inductive Goal where
  /-- An expression without a comma. -/
  | assignment
  | unary
  /-- Operators that bind tighter than a level, behind their first operand. -/
  | operators (left : Expr) (level : Nat)
  /-- An operand with its members, possibly behind `new`. -/
  | subject
  /-- An operand with its members and calls. -/
  | leftHandSide
  | binding (letForbidden : Bool)
  | target (role : Role) (e : Expr)
  | statement (declarations : Bool)

/-- What a rule yields. -/
abbrev Goal.Result : Goal → Type
  | .assignment | .unary | .operators _ _ | .subject | .leftHandSide | .binding _ => Expr
  | .target _ _ => Unit
  | .statement _ => Stmt

/-- A parser for every rule. -/
abbrev Rules := (g : Goal) → Parser g.Result

open PotCatalog.Script.Parser

/-! ## Keys -/

/-- Reads the name of a member. -/
def memberKey (rules : Rules) : Parser Expr := do
  let start ← here
  match ← token with
  | .word w =>
    bump
    return .mk start (.name w)
  | .text value written =>
    bump
    return .mk start (.text value written)
  | .number =>
    bump
    return .mk start (.constant .number)
  | .bigInteger =>
    bump
    return .mk start (.constant .bigInteger)
  | .mark .bracketOpen =>
    bump
    let value ← allowIn (rules .assignment)
    expect .bracketClose
    return .mk start (.computed value)
  | _ => failUnexpected "identifier, string literal, numeric literal or [ for the computed key"

/-- Reads a private name, whose sign stands directly before it. -/
def privateKey : Parser Expr := do
  let start ← here
  bump
  let s ← get
  if s.current.first.offset != s.previous.2 then failAt .privateSpace start
  return .mk start (.privateName (← anyWord))

/-! ## Reading targets -/

/-- The sign of an assignment and of a default. -/
def assignSign : Token := .mark .assign

/-- Reads a target and its default, if it has one. -/
def bindingWithDefault (rules : Rules) : Parser Expr := do
  let target ← rules (.binding false)
  if ← eats .assign then
    let value ← allowIn (rules .assignment)
    return .mk target.start (.assign assignSign target value)
  else return target

/-- Reads the comma behind an item that is not the last one.  Behind a rest
    there must not be a comma, even if nothing follows it. -/
def itemComma (close : Mark) (isRest : Bool) : Parser Unit := do
  if !(← sees close) then
    expect .comma
    if isRest && (← sees close) then note .commaAfterRest (← get).previous.1

/-- Reads the items of an array of targets. -/
def bindingItems (rules : Rules) : Parser (List Expr) :=
  loop (([], none) : List Expr × Option Nat) fun (items, rest) => do
    if ← sees .bracketClose then return .inr items.reverse
    let start ← here
    if ← eats .comma then return .inl (.mk start .hole :: items, rest)
    if let some offset := rest then note .restNotLast offset
    if ← eats .ellipsis then
      let target ← rules (.binding false)
      itemComma .bracketClose true
      return .inl (.mk start (.spread target) :: items, some start)
    else
      let target ← bindingWithDefault rules
      itemComma .bracketClose false
      return .inl (target :: items, rest)

/-- Reads a member of an object of targets. -/
def bindingMember (rules : Rules) : Parser Expr := do
  let start ← here
  if ← eats .ellipsis then return .mk start (.spread (← rules (.binding false)))
  let key ← memberKey rules
  if ← eats .colon then return .mk start (.pair key (← bindingWithDefault rules))
  match key.form with
  | .name name =>
    if ← eats .assign then
      return .mk start (.shorthandDefault name (← allowIn (rules .assignment)))
    if isReserved (← mode) name then note .reservedShorthand key.start
    return .mk start (.shorthand name)
  | _ => failUnexpected "an identifier"

/-- Reads members up to a closing brace, with commas between them and possibly
    one behind them: the members, and where the last comma stands. -/
def membersToBrace (member : Parser Expr) : Parser (List Expr × Option Nat) :=
  loop (([], none) : List Expr × Option Nat) fun (members, final) => do
    if ← eats .braceClose then return .inr (members.reverse, final)
    let members := (← member) :: members
    if ← sees .braceClose then return .inl (members, none)
    expect .comma
    let comma := (← get).previous.1
    return .inl (members, if ← sees .braceClose then some comma else none)

/-- Notes what is wrong with the rests of an object of targets. -/
def checkRests (final : Option Nat) : List Expr → Parser Unit
  | [] => return
  | [.mk start (.spread target)] =>
    match target.form with
    | .name _ =>
      match final with
      | some offset => note .commaAfterRest offset
      | none => return
    | _ => failAt .restName start
  | .mk start (.spread _) :: rest => do
    note .restNotLast start
    checkRests final rest
  | _ :: rest => checkRests final rest

/-- Reads a target in a declaration. -/
def bindingTarget (rules : Rules) (letForbidden : Bool) : Parser Expr := do
  let start ← here
  match ← token with
  | .word _ => bindingName letForbidden
  | .mark .bracketOpen =>
    bump
    let items ← bindingItems rules
    expect .bracketClose
    return .mk start (.array items)
  | .mark .braceOpen =>
    bump
    let (members, final) ← membersToBrace (bindingMember rules)
    checkRests final members
    return .mk start (.object members)
  | .invalid failure =>
    bump
    throw failure
  | _ => failUnexpected "yield, an identifier, [ or \x7b"

/-! ## Checking targets -/

/-- Whether an expression names a place that can be assigned to: a variable or
    a member, possibly in parentheses. -/
def Expr.isPlace (strict : Bool) : Expr → Bool
  | .mk _ (.name name) => !(strict && isStrictBinding name)
  | .mk _ (.paren inner) => inner.isPlace strict
  | .mk _ (.member _ _) => true
  | _ => false

/-- Notes an expression that is assigned to but names no place. -/
def checkPlace (e : Expr) : Parser Unit := do
  if !e.isPlace (← mode).strict then note .targetShape e.start

/-- Whether an expression is an array or an object. -/
def Form.isCollection : Form → Bool
  | .array _ | .object _ => true
  | _ => false

/-- Whether an expression is an assignment. -/
def Form.isAssignment : Form → Bool
  | .assign _ _ _ => true
  | _ => false

/-- Checks a member of an object as part of a target. -/
def checkMember (rules : Rules) (role : Role) (isLast : Bool) : Expr → Parser Unit
  | .mk _ (.shorthand _) => return
  | .mk start (.shorthandDefault _ _) =>
    modify fun s => { s with openDefaults := s.openDefaults.filter (· != start) }
  | .mk _ (.pair _ value) => rules (.target role.part value)
  | .mk start (.spread value) => do
    if !isLast then note .restNotLast start
    if role.part = .boundPart then
      match value.form with
      | .name _ => return
      | _ => note .restName start
    else
      rules (.target role.part value)
      if value.form.isAssignment then note .restInitializer start
  | e => failAt .notPattern e.start

/-- Checks the members of an object as parts of a target. -/
def checkMembers (rules : Rules) (role : Role) : List Expr → Parser Unit
  | [] => return
  | e :: es => do
    checkMember rules role es.isEmpty e
    checkMembers rules role es

/-- Whether an item of an array is missing. -/
def Expr.isHole : Expr → Bool
  | .mk _ .hole => true
  | _ => false

/-- Checks the items of an array that starts at `start` as parts of a target. -/
def checkItems (rules : Rules) (role : Role) (start : Nat) : List Expr → Parser Unit
  | [] => return
  | .mk offset (.spread value) :: es => do
    if es.isEmpty then
      if value.form.isAssignment then note .restInitializer offset
      match (← get).finalCommas.lookup start with
      | some comma => note .commaAfterRest comma
      | none => pure ()
      rules (.target role.part value)
    else note .restNotLast offset
    checkItems rules role start es
  | e :: es => do
    if !e.isHole then rules (.target role.part e)
    checkItems rules role start es

/-- The forms that are a part of a target as they stand or not at all. -/
def Form.isOperand : Form → Bool
  | .member _ _ | .call _ _ | .construct _ _ | .text _ _ | .constant _ | .name _ | .function _ _
  | .classOf _ _ | .paren _ | .template _ => true
  | _ => false

/-- Checks the inner form of a target. -/
def checkForm (rules : Rules) (role : Role) (e : Expr) : Parser Unit :=
  match e.form with
  | .name _ => return
  | .assign operator target _ =>
    if operator = assignSign then
      if target.form.isCollection then return else rules (.target role target)
    else note .notPattern e.start
  | .object members => checkMembers rules role members
  | .array items => checkItems rules role e.start items
  | _ => note .notPattern e.start

/-- Checks an expression as a target. -/
def checkTarget (rules : Rules) (role : Role) (e : Expr) : Parser Unit := do
  match e.form with
  | .missing => return
  | _ =>
    match role with
    | .assigned =>
      if e.form.isCollection then checkForm rules role e else checkPlace e
    | .assignedPart =>
      if e.form.isOperand then
        if !e.isPlace (← mode).strict then note .notAssignable e.start
      else
        if !(e.form.isCollection || e.form.isAssignment) then note .notPattern e.start
        checkForm rules role e
    | .bound | .boundPart => checkForm rules role e

end PotCatalog.Script
