/-
  Functions and classes.

  The parameters and the body of a function change what their surroundings
  allow: `await` and `yield` follow the kind of the function, labels end at its
  border, and a class is strict throughout.
-/
import PotCatalog.Script.Target

namespace PotCatalog.Script

open PotCatalog.Script.Parser

/-! ## Blocks -/

/-- Whether a token is the directive that makes code strict. -/
def Token.isStrictDirective : Token → Bool
  | .text _ written => written == "use strict"
  | _ => false

/-- Reads statements up to the closing brace.  If they may start with
    directives, the directive `use strict` makes all of them strict. -/
def statementsToBrace (rules : Rules) (directives : Bool) : Parser (List Stmt) := do
  let strict := directives && (← token).isStrictDirective
  let body ← inside (fun m => { m with strict := m.strict || strict, topLevel := false }) <|
    loop [] fun (body : List Stmt) => do
      match ← token with
      | .endOfSource =>
        note (.expected "\x7d" "<eof>") (← here)
        return .inr body.reverse
      | .mark .braceClose => return .inr body.reverse
      | _ => return .inl ((← rules (.statement true)) :: body)
  if (← token) != .endOfSource then bump
  return body

/-- Reads statements in braces. -/
def block (rules : Rules) (directives : Bool) : Parser (List Stmt) := do
  expect .braceOpen
  statementsToBrace rules directives

/-! ## Parameters and bodies -/

/-- The kind of a function. -/
structure FunctionKind where
  isAsync : Bool := false
  isGenerator : Bool := false
  isArrow : Bool := false

/-- Reads parameters up to the closing parenthesis. -/
def parameters (rules : Rules) : Parser (List Expr) :=
  loop (([], none) : List Expr × Option Nat) fun (params, rest) => do
    if ← sees .parenClose then return .inr params.reverse
    if let some offset := rest then note .restParameterNotLast offset
    let start ← here
    if ← eats .ellipsis then
      let target ← rules (.binding false)
      if ← eats .assign then
        let _ ← rules .assignment
        note .restInitializer target.start
      itemComma .parenClose true
      return .inl (.mk start (.spread target) :: params, some start)
    else
      let target ← bindingWithDefault rules
      itemComma .parenClose false
      return .inl (target :: params, rest)

/-- Whether a parameter is a plain name. -/
def Expr.isPlainName : Expr → Bool
  | .mk _ (.name _) => true
  | _ => false

/-- Where the directive `use strict` stands among the directives of a body. -/
def strictDirective? : List Stmt → Option Nat
  | .expr (.mk start (.text _ written)) :: rest =>
    if written == "use strict" then some start else strictDirective? rest
  | _ => none

/-- The surroundings of the body of a function. -/
def FunctionKind.bodyMode (kind : FunctionKind) (m : Mode) : Mode :=
  { m with
    inAsync := kind.isAsync
    inGenerator := kind.isGenerator
    inFunction := true
    inPlainFunction := m.inPlainFunction || !kind.isArrow
    inInitializer := false
    breakAllowed := false
    continueAllowed := false
    topLevel := false }

/-- Reads the body of a function.  It may declare itself strict only if its
    parameters are plain names. -/
def functionBody (rules : Rules) (kind : FunctionKind) (params : List Expr) :
    Parser (List Stmt) :=
  inside kind.bodyMode <| inBody do
    let body ← block rules true
    if !params.all Expr.isPlainName then
      if let some offset := strictDirective? body then note .strictDirective offset
    return body

/-- Reads the body of an arrow function. -/
def arrowBody (rules : Rules) (isAsync : Bool) (params : List Expr) : Parser (List Stmt) := do
  let kind : FunctionKind := { isAsync := isAsync, isArrow := true }
  if ← sees .braceOpen then functionBody rules kind params
  else inside kind.bodyMode <| inBody do return [.returning (some (← rules .assignment))]

/-- The surroundings of the parameters of a function. -/
def FunctionKind.paramMode (kind : FunctionKind) (m : Mode) : Mode :=
  { m with
    inAsync := kind.isAsync
    inGenerator := kind.isGenerator
    inParameters := true
    inFunction := false }

/-- Reads the parameters and the body of a function; `check` looks at the
    parameters. -/
def functionRest (rules : Rules) (kind : FunctionKind) (check : List Expr → Parser Unit) :
    Parser (List Expr × List Stmt) := do
  expect .parenOpen
  let params ← inside kind.paramMode do
    let params ← parameters rules
    check params
    return params
  expect .parenClose
  return (params, ← functionBody rules kind params)

/-- The surroundings of a function that is no method. -/
def plainFunctionMode (m : Mode) : Mode := { m with superAllowed := false, inField := false }

/-- The surroundings of a method. -/
def methodMode (m : Mode) : Mode := { m with superAllowed := true, inField := false }

/-- Reads a function behind its first word, if that is `async`. -/
def functionFrom (rules : Rules) (start : Nat) (isAsync : Bool) (name : Bool → Parser Unit) :
    Parser Expr := do
  bump
  let isGenerator ← eats .times
  name isGenerator
  let (params, body) ← inside plainFunctionMode <|
    functionRest rules { isAsync := isAsync, isGenerator := isGenerator } fun _ => return
  return .mk start (.function params body)

/-- Reads the declaration of a function. -/
def functionDeclaration (rules : Rules) (start : Nat) (isAsync : Bool) : Parser Expr :=
  functionFrom rules start isAsync fun _ => do
    let _ ← bindingName false

/-- Reads a function as an expression, which may have a name. -/
def functionExpression (rules : Rules) (start : Nat) (isAsync : Bool) : Parser Expr :=
  closingDefaults start <| functionFrom rules start isAsync fun isGenerator => do
    inside (fun m => { m with inAsync := isAsync, inGenerator := isGenerator }) do
      if ← seesName then
        let _ ← bindingName false

/-! ## Methods -/

/-- The two kinds of accessors. -/
inductive Accessor where
  | getter
  | setter
  deriving DecidableEq, Repr

/-- The accessor that a word announces. -/
def accessor? : String → Option Accessor
  | "get" => some .getter
  | "set" => some .setter
  | _ => none

/-- Notes a wrong number of parameters of an accessor, at the given offset. -/
def Accessor.check (a : Accessor) (offset : Nat) (params : List Expr) : Parser Unit :=
  match a with
  | .getter => if params.isEmpty then return else note .getterParameter offset
  | .setter => do
    if params.length != 1 then note .setterParameter offset
    match params with
    | .mk start (.spread _) :: _ => note .setterRest start
    | _ => return

/-- Reads a method behind its key. -/
def methodRest (rules : Rules) (start : Nat) (key : Expr) (kind : FunctionKind)
    (check : List Expr → Parser Unit) : Parser Expr := do
  let (params, body) ← inside methodMode <| functionRest rules kind check
  return .mk start (.method key params body)

/-- Reads a method without conditions on its parameters. -/
def plainMethod (rules : Rules) (start : Nat) (key : Expr) (kind : FunctionKind) : Parser Expr :=
  methodRest rules start key kind fun _ => return

/-! ## Members of classes -/

/-- Whether a key is the word `constructor`. -/
def Expr.isConstructorKey : Expr → Bool
  | .mk _ (.name name) => name == "constructor"
  | .mk _ (.text value _) => value.text? == some "constructor"
  | _ => false

/-- Whether a key is a certain word. -/
def Expr.isKeyWord (e : Expr) (w : String) : Bool :=
  match e with
  | .mk _ (.name name) => name == w
  | _ => false

/-- Reads the name of a member of a class. -/
def classKey (rules : Rules) : Parser Expr := do
  if ← sees .hash then
    let key ← privateKey
    match key.form with
    | .privateName "constructor" => note .privateConstructor key.start
    | _ => pure ()
    return key
  else memberKey rules

/-- Whether the name of a field ends here; `lines` tells that a line break can
    end it. -/
def seesFieldEnd (lines : Bool) : Parser Bool := do
  match ← token with
  | .mark .assign | .mark .braceClose | .mark .semicolon => return true
  | _ => if lines then seesEnd else return false

/-- Reads a field behind its key. -/
def fieldRest (rules : Rules) (start : Nat) (key : Expr) : Parser Expr := do
  if key.isConstructorKey then failAt .fieldConstructor key.start
  inside (fun m => { m with inAllowed := true, inField := true }) do
    let value ← if ← eats .assign then some <$> rules .assignment else pure none
    if !(← eatsEnd) then note .noSemicolon (← here)
    return .mk start (.field key value)

/-- Reads the constructor of a class behind its key. -/
def constructorRest (rules : Rules) (start : Nat) (key : Expr) : Parser Expr := do
  expect .parenOpen
  let params ← parameters rules
  expect .parenClose
  return .mk start (.method key params (← functionBody rules {} params))

/-- Reads an accessor of a class behind its first word, which is `word`. -/
def classAccessor (rules : Rules) (start : Nat) (word : Expr) (a : Accessor) : Parser Expr := do
  let key ← classKey rules
  if key.isConstructorKey then note .accessorConstructor word.start
  methodRest rules start key {} (a.check word.start)

/-- A member of a class, and whether it is the constructor. -/
abbrev MemberRead := Expr × Bool

/-- Reads a member of a class behind the word `static`, if that stands before
    it. -/
def classMemberRest (rules : Rules) (start : Nat) (isStatic : Bool) : Parser MemberRead := do
  if isStatic && (← sees .braceOpen) then
    let body ← inside (fun m => { m with inInitializer := true, inField := true }) <|
      block rules false
    return (.mk start (.initializer body), false)
  if ← eats .times then
    let key ← classKey rules
    if key.isConstructorKey then note .generatorConstructor key.start
    return (← plainMethod rules start key { isGenerator := true }, false)
  let key ← classKey rules
  if ← sees .parenOpen then
    if !isStatic && key.isConstructorKey then return (← constructorRest rules start key, true)
    return (← plainMethod rules start key {}, false)
  let generatorBelow := (← lineBreakHere) && (← sees .times)
  let accessor :=
    match key with
    | .mk _ (.name name) => accessor? name
    | _ => none
  if let some a := accessor then
    if !(← seesFieldEnd false) && !generatorBelow then
      return (← classAccessor rules start key a, false)
  if ← seesFieldEnd true then return (← fieldRest rules start key, false)
  if key.isKeyWord "async" then
    let isGenerator ← eats .times
    let key ← classKey rules
    if key.isConstructorKey then failAt .asyncConstructor key.start
    return (← plainMethod rules start key { isAsync := true, isGenerator := isGenerator }, false)
  failUnexpected "* for generator, private key, identifier or async"

/-- Reads a member of a class.  The word `static` can itself be the name. -/
def classMember (rules : Rules) : Parser MemberRead :=
  inside (fun m => { m with superAllowed := true }) do
    let start ← here
    if ← eatsWord "static" then
      let key := Expr.mk start (.name "static")
      if ← sees .parenOpen then return (← plainMethod rules start key {}, false)
      if ← seesFieldEnd false then return (← fieldRest rules start key, false)
      classMemberRest rules start true
    else classMemberRest rules start false

/-- Reads the members of a class up to the closing brace. -/
def classMembers (rules : Rules) : Parser (List Expr) :=
  loop (([], false) : List Expr × Bool) fun (members, constructed) => do
    match ← token with
    | .mark .braceClose | .endOfSource => return .inr members.reverse
    | .mark .semicolon =>
      bump
      return .inl (members, constructed)
    | _ =>
      let (member, isConstructor) ← classMember rules
      if isConstructor && constructed then note .secondConstructor member.start
      return .inl (member :: members, constructed || isConstructor)

/-- Reads a class from its first word. -/
def classFrom (rules : Rules) (start : Nat) (nameRequired : Bool) : Parser Expr :=
  inside (fun m => { m with strict := true }) do
    bump
    if nameRequired || (← seesName) then
      let _ ← bindingName true
    let base ← if ← eatsWord "extends" then some <$> rules .leftHandSide else pure none
    if ← eatsWord "extends" then
      note .secondBase (← get).previous.1
      let _ ← rules .leftHandSide
    expect .braceOpen
    let members ← inside (fun m => { m with inClass := true }) (classMembers rules)
    if (← token) == .endOfSource then note (.expected "\x7d" "<eof>") (← here)
    else expect .braceClose
    return .mk start (.classOf members base)

end PotCatalog.Script
