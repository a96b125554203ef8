/-
  Scripts as trees.

  An expression carries the byte offset it starts at.  What a value is bound or
  assigned to is written like an expression and is one here: a name, a member,
  or an array or an object of such targets, which may have defaults.  Keys,
  members and items are expressions too.  The parts of a form stand in the order
  in which a script is searched: in source order, but the test of a `do` loop
  before its body, and the members of a class before its base.
-/
import PotCatalog.Script.Token

namespace PotCatalog.Script

/-- A value that is written down and is no string. -/
inductive Constant where
  | null
  | boolean (value : Bool)
  | number
  | bigInteger
  | pattern
  deriving DecidableEq, Repr

mutual

/-- An expression, and the byte offset it starts at. -/
inductive Expr where
  | mk (start : Nat) (form : Form)

/-- The forms of expressions. -/
inductive Form where
  | name (name : String)
  /-- A string: its value, and what is written between its quotes. -/
  | text (value : CodePoints) (written : String)
  | constant (value : Constant)
  | this
  /-- What `super` stands for; it is called, or has a member. -/
  | base
  /-- The word `import` as a function. -/
  | loader
  /-- `new.target` and `import.meta` -/
  | metaProperty
  | privateName (name : String)
  /-- A template with its substitutions. -/
  | template (substitutions : List Expr)
  | tagged (tag : Expr) (substitutions : List Expr)
  | array (items : List Expr)
  | object (members : List Expr)
  /-- No item between two commas. -/
  | hole
  /-- `...value` -/
  | spread (value : Expr)
  /-- A member that is named like the variable it holds. -/
  | shorthand (name : String)
  /-- Such a member with a default, which only a target may have. -/
  | shorthandDefault (name : String) (value : Expr)
  /-- `key: value` -/
  | pair (key value : Expr)
  /-- `[value]` as a key -/
  | computed (value : Expr)
  /-- A function that is a member of an object or a class. -/
  | method (key : Expr) (params : List Expr) (body : List Stmt)
  /-- A variable of the members of a class. -/
  | field (key : Expr) (value : Option Expr)
  /-- Statements that run when a class is made. -/
  | initializer (body : List Stmt)
  | function (params : List Expr) (body : List Stmt)
  /-- An arrow function; if its body is an expression, it returns it. -/
  | arrow (params : List Expr) (body : List Stmt)
  | classOf (members : List Expr) (base : Option Expr)
  | paren (inner : Expr)
  | sequence (items : List Expr)
  | unary (operator : Token) (operand : Expr)
  | update (operator : Token) (operand : Expr)
  | await (operand : Expr)
  | yield (operand : Option Expr)
  | binary (operator : Token) (left right : Expr)
  | conditional (test value otherwise : Expr)
  /-- An assignment, or a target with a default. -/
  | assign (operator : Token) (target value : Expr)
  | member (subject key : Expr)
  /-- A member behind `?.`, or behind such a member. -/
  | optionalMember (subject key : Expr)
  | call (callee : Expr) (args : List Expr)
  /-- A call behind `?.`, or of something behind `?.`. -/
  | optionalCall (callee : Expr) (args : List Expr)
  | construct (callee : Expr) (args : List Expr)
  /-- A variable that is declared, with its initial value. -/
  | declarator (target : Expr) (value : Option Expr)
  /-- An operand that could not be read. -/
  | missing

/-- A statement. -/
inductive Stmt where
  | empty
  | expr (e : Expr)
  | declare (declarators : List Expr)
  /-- The declaration of a function or a class. -/
  | define (value : Expr)
  | block (body : List Stmt)
  | ifElse (test : Expr) (body : Stmt) (otherwise : Option Stmt)
  /-- A loop with three parts. -/
  | forLoop (init : Option Stmt) (test step : Option Expr) (body : Stmt)
  /-- A loop over the keys or the items of something. -/
  | forEach (target : Stmt) (subject : Expr) (body : Stmt)
  | whileLoop (test : Expr) (body : Stmt)
  | doLoop (test : Expr) (body : Stmt)
  /-- `break`, `continue` and `debugger` -/
  | jump
  | returning (value : Option Expr)
  | throwing (value : Expr)
  | switch (subject : Expr) (cases : List Stmt)
  /-- A case of a `switch` statement; the default has no test. -/
  | switchCase (test : Option Expr) (body : List Stmt)
  | tryCatch (body : Stmt) (handler cleanup : Option Stmt)
  | handler (param : Option Expr) (body : Stmt)
  | withScope (scope : Expr) (body : Stmt)
  | labelled (label : String) (body : Stmt)
  /-- An import, or an export of names. -/
  | link (attributes : Option Expr)
  | exporting (declaration : Stmt)
  | exportDefault (value : Expr)

end

/-- Where an expression starts. -/
def Expr.start : Expr → Nat
  | .mk start _ => start

/-- The form of an expression. -/
def Expr.form : Expr → Form
  | .mk _ form => form

/-- A script or a module. -/
structure Program where
  isModule : Bool
  body : List Stmt

end PotCatalog.Script
