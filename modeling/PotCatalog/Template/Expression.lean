/-
  The grammar of expressions in templates.

  The rules of the grammar refer to each other through `Rules`, so that each
  one is a plain definition; `Template.parse` ties them together.  From loose
  to tight: conditional, `or`, `and`, `not`, comparisons, sums, `~`, products,
  `**`, then an operand with a minus sign before it and subscripts, calls,
  filters and tests behind it.
-/
import PotCatalog.Template.Parser

namespace PotCatalog.Template

/-! ## Rules that refer to each other -/

/-- The rules of the grammar that can contain themselves. -/
inductive Goal where
  | expression
  /-- Statements up to a tag that starts with one of these words. -/
  | body (closers : List String)
  /-- What follows the word `if` or `elif`. -/
  | conditional
  /-- The left side of an assignment. -/
  | target (dotted : Bool)

/-- What a rule yields. -/
abbrev Goal.Result : Goal → Type
  | .expression => Expr
  | .body _ => List Stmt
  | .conditional => Stmt
  | .target _ => Expr

/-- A parser for every rule. -/
abbrev Rules := (g : Goal) → Parser g.Result

open PotCatalog.Template.Parser

/-! ## Lists -/

/-- Reads items up to a closing symbol, with commas between them and possibly
    one behind them. -/
def items {α : Type} (close : Symbol) (item : Parser α) : Parser (List α) :=
  loop [] fun acc => do
    if ← skipsSymbol close then return .inr acc.reverse
    if !acc.isEmpty then
      expectSymbol .comma
      if ← skipsSymbol close then return .inr acc.reverse
    return .inl ((← item) :: acc)

/-! ## Arguments -/

/-- The most arguments that a call may have. -/
def maxArguments : Nat := 2000

/-- Reads one argument; `named` tells that a keyword argument came before. -/
def argument (rules : Rules) (named : Bool) : Parser Argument := do
  if ← skipsSymbol .power then return .keywordSplat (← rules .expression)
  if ← skipsSymbol .times then return .splat (← rules .expression)
  let value ← rules .expression
  match value with
  | .var name =>
    if ← skipsSymbol .assign then return .keyword name (← rules .expression)
  | _ => pure ()
  if named then fail .positionalAfterKeyword else return .positional value

/-- Whether only keyword arguments may follow an argument. -/
def Argument.named : Argument → Bool
  | .keyword _ _ | .keywordSplat _ => true
  | _ => false

/-- Reads the arguments of a call with their parentheses. -/
def arguments (rules : Rules) : Parser (List Argument) := do
  expectSymbol .parenOpen
  loop [] fun (acc : List Argument) => do
    if ← skipsSymbol .parenClose then return .inr acc.reverse
    if !acc.isEmpty then
      expectSymbol .comma
      if ← skipsSymbol .parenClose then return .inr acc.reverse
    let acc := (← argument rules (acc.any Argument.named)) :: acc
    if maxArguments < acc.length then fail .tooManyArguments else return .inl acc

/-- Reads arguments if there are any. -/
def optionalArguments (rules : Rules) : Parser (List Argument) := do
  if ← seesSymbol .parenOpen then arguments rules else return []

/-! ## Operands -/

/-- Reads the strings that follow a string directly, and joins them to it. -/
def joinTexts (first : String) : Parser String :=
  loop first fun acc => do
    match ← peek with
    | some (.text value _) =>
      let _ ← next
      return .inl (acc ++ value)
    | _ => return .inr acc

/-- Reads what follows an opening parenthesis: an expression, or a list if
    there is a comma or nothing. -/
def parenthesized (rules : Rules) : Parser Expr := do
  if ← skipsSymbol .parenClose then return .list []
  let first ← rules .expression
  if ← seesSymbol .comma then
    loop [first] fun acc => do
      if ← skipsSymbol .parenClose then return .inr (.list acc.reverse)
      expectSymbol .comma
      if ← skipsSymbol .parenClose then return .inr (.list acc.reverse)
      return .inl ((← rules .expression) :: acc)
  else
    expectSymbol .parenClose
    return first

/-- Reads an entry of a map. -/
def entry (rules : Rules) : Parser Entry := do
  let key ← rules .expression
  expectSymbol .colon
  return .mk key (← rules .expression)

/-- The words that stand for constants. -/
def wordConstant? : String → Option Constant
  | "true" | "True" => some (.boolean true)
  | "false" | "False" => some (.boolean false)
  | "none" | "None" => some .none
  | _ => none

/-- Reads an operand without anything around it. -/
def operand (rules : Rules) : Parser Expr := deeper do
  match ← next with
  | none => fail (.endOfInput .expression)
  | some (.identifier name) =>
    match wordConstant? name with
    | some value => return .constant value
    | none => return .var name
  | some (.text value true) => return .constant (.text (← joinTexts value))
  | some (.text value false) =>
    if ← peekText then return .constant (.text (← joinTexts value))
    else return .constant (.text value)
  | some (.integer n) => return .constant (.integer n)
  | some .float => return .constant .float
  | some (.symbol .parenOpen) => parenthesized rules
  | some (.symbol .bracketOpen) => return .list (← items .bracketClose (rules .expression))
  | some (.symbol .braceOpen) => return .map (← items .braceClose (entry rules))
  | some token => fail (.noOperand token)

/-- Reads an operand with any number of minus signs before it. -/
def negation (rules : Rules) : Parser Expr := do
  let signs ← loop 0 fun n => do
    if ← skipsSymbol .minus then return .inl (n + 1) else return .inr n
  let value ← operand rules
  return signs.repeat (.unary .negate) value

/-- Reads a subscript or a slice behind its opening bracket. -/
def subscript (rules : Rules) (subject : Expr) : Parser Expr := do
  let start ← if ← seesSymbol .colon then pure none else some <$> rules .expression
  if ← skipsSymbol .colon then
    let stop ←
      if ← sees (fun t => t == .symbol .bracketClose || t == .symbol .colon) then pure none
      else some <$> rules .expression
    let step ←
      if ← skipsSymbol .colon then
        if ← seesSymbol .bracketClose then pure none else some <$> rules .expression
      else pure none
    expectSymbol .bracketClose
    return .slice subject start stop step
  else
    expectSymbol .bracketClose
    match start with
    | some index => return .item subject index
    | none => fail .emptySubscript

/-- Reads what follows the dot of an attribute. -/
def attributeOf (subject : Expr) : Parser Expr :=
  expectThat .identifierOrInteger fun
    | .identifier name => some (.attribute subject name)
    | .integer n => some (.item subject (.constant (.integer n)))
    | _ => none

/-- Reads attributes, subscripts and calls behind an operand.  A call is
    reported where the step before it starts, which for the first one is
    `start`. -/
def postfixes (rules : Rules) (start : Nat) (subject : Expr) : Parser Expr :=
  loop (start, subject) fun (start, subject) => do
    let here ← here
    match ← peek with
    | some (.symbol .dot) =>
      let _ ← next
      return .inl (here, ← attributeOf subject)
    | some (.symbol .bracketOpen) =>
      let _ ← next
      return .inl (here, ← subscript rules subject)
    | some (.symbol .parenOpen) =>
      return .inl (here, .call (.mk start subject (← arguments rules)))
    | _ => return .inr subject

/-- Reads an operand with its minus signs, attributes, subscripts and calls. -/
def postfixed (rules : Rules) : Parser Expr := do
  let start ← here
  postfixes rules start (← negation rules)

/-- Reads the name of a filter or a test, which may have dots in it. -/
def dottedName : Parser String := do
  loop (← expectName) fun name => do
    if ← skipsSymbol .dot then return .inl (name ++ "." ++ (← expectName)) else return .inr name

/-- Whether a token starts the operand of a test that is written without
    parentheses. -/
def startsTestOperand : Token → Bool
  | .identifier name => !(["and", "or", "else", "is"].contains name)
  | .text _ _ | .integer _ | .float => true
  | .symbol s => [.plus, .minus, .bracketOpen, .braceOpen].contains s
  | _ => false

/-- Reads a test behind the word `is`. -/
def test (rules : Rules) (subject : Expr) : Parser Expr := do
  let negated ← skipsWord "not"
  let name ← dottedName
  let args ←
    if ← seesSymbol .parenOpen then arguments rules
    else if ← sees startsTestOperand then pure [.positional (← postfixed rules)]
    else pure []
  let result := Expr.test name subject args
  return if negated then .unary .not result else result

/-- Reads filters and tests behind an operand. -/
def filters (rules : Rules) (subject : Expr) : Parser Expr :=
  loop subject fun subject => do
    if ← skipsSymbol .pipe then
      let name ← dottedName
      return .inl (.filter name (some subject) (← optionalArguments rules))
    else if ← skipsWord "is" then return .inl (← test rules subject)
    else return .inr subject

/-- Reads an operand with all that belongs to it. -/
def unary (rules : Rules) : Parser Expr := do filters rules (← postfixed rules)

/-! ## Operators -/

/-- Reads operands with operators of one level between them, grouped to the
    left. -/
def leftAssociative (level : Parser Expr) (op? : Token → Option BinaryOp) : Parser Expr := do
  loop (← level) fun left => do
    match (← peek).bind op? with
    | some op =>
      let _ ← next
      return .inl (.binary op left (← level))
    | none => return .inr left

/-- The level of `**`. -/
def powers (rules : Rules) : Parser Expr :=
  leftAssociative (unary rules) fun
    | .symbol .power => some .power
    | _ => none

/-- The level of products. -/
def products (rules : Rules) : Parser Expr :=
  leftAssociative (powers rules) fun
    | .symbol .times => some .multiply
    | .symbol .divide => some .divide
    | .symbol .floorDivide => some .floorDivide
    | .symbol .modulo => some .modulo
    | _ => none

/-- The level of `~`. -/
def concatenations (rules : Rules) : Parser Expr :=
  leftAssociative (products rules) fun
    | .symbol .tilde => some .concat
    | _ => none

/-- The level of sums. -/
def sums (rules : Rules) : Parser Expr :=
  leftAssociative (concatenations rules) fun
    | .symbol .plus => some .add
    | .symbol .minus => some .subtract
    | _ => none

/-- The comparison that a token stands for. -/
def comparison? : Token → Option BinaryOp
  | .symbol .equal => some .equal
  | .symbol .notEqual => some .notEqual
  | .symbol .less => some .less
  | .symbol .lessEqual => some .lessEqual
  | .symbol .greater => some .greater
  | .symbol .greaterEqual => some .greaterEqual
  | .identifier "in" => some .contains
  | _ => none

/-- Reads a comparison operator if there is one: the operator, and whether it
    is negated. -/
def comparisonOperator : Parser (Option (BinaryOp × Bool)) := do
  if ← skipsWord "not" then
    expect (.identifier "in") (.word "in")
    return some (.contains, true)
  match (← peek).bind comparison? with
  | some op =>
    let _ ← next
    return some (op, false)
  | none => return none

/-- An expression from its first operand and its comparisons: one comparison is
    an operator like any other, more of them are a chain. -/
def compare (first : Expr) : List Link → Expr
  | [] => first
  | [.mk op false right] => .binary op first right
  | [.mk op true right] => .unary .not (.binary op first right)
  | links => .chain first links

/-- The level of comparisons. -/
def comparisons (rules : Rules) : Parser Expr := do
  let first ← sums rules
  loop [] fun links => do
    match ← comparisonOperator with
    | some (op, negated) => return .inl (.mk op negated (← sums rules) :: links)
    | none => return .inr (compare first links.reverse)

/-- The level of `not`. -/
def negations (rules : Rules) : Parser Expr := do
  let count ← loop 0 fun n => do
    if ← skipsWord "not" then return .inl (n + 1) else return .inr n
  let value ← comparisons rules
  return count.repeat (.unary .not) value

/-- The level of `and`. -/
def conjunctions (rules : Rules) : Parser Expr :=
  leftAssociative (negations rules) fun
    | .identifier "and" => some .and
    | _ => none

/-- The level of `or`: an expression without a conditional around it. -/
def disjunctions (rules : Rules) : Parser Expr :=
  leftAssociative (conjunctions rules) fun
    | .identifier "or" => some .or
    | _ => none

/-- Reads an expression. -/
def expression (rules : Rules) : Parser Expr := deeper do
  loop (← disjunctions rules) fun value => do
    if ← skipsWord "if" then
      let test ← disjunctions rules
      let otherwise ←
        if ← skipsWord "else" then some <$> rules .expression else pure none
      return .inl (.conditional test value otherwise)
    else return .inr value

end PotCatalog.Template
