/-
  Templates as trees.

  `Expr` and `Stmt` are the expressions and statements of the template
  language.  A call carries the byte offset it is reported at.  `Expr.shape`
  is the word by which messages call an expression.
-/

namespace PotCatalog.Template

/-- An operator with one operand. -/
inductive UnaryOp where
  | not
  | negate
  deriving DecidableEq, Repr

/-- An operator with two operands. -/
inductive BinaryOp where
  | or | and | equal | notEqual | less | lessEqual | greater | greaterEqual | contains
  | add | subtract | multiply | divide | floorDivide | modulo | power | concat
  deriving DecidableEq, Repr

/-- A constant. -/
inductive Constant where
  | boolean (value : Bool)
  | none
  | text (value : String)
  | integer (value : Nat)
  | float
  deriving DecidableEq, Repr

mutual

/-- An expression. -/
inductive Expr where
  | var (name : String)
  | constant (value : Constant)
  /-- `base[start:stop:step]` -/
  | slice (base : Expr) (start stop step : Option Expr)
  | unary (op : UnaryOp) (operand : Expr)
  | binary (op : BinaryOp) (left right : Expr)
  /-- Two or more comparisons in a row, as in `a < b < c`. -/
  | chain (first : Expr) (links : List Link)
  /-- `value if test else otherwise` -/
  | conditional (test value : Expr) (otherwise : Option Expr)
  /-- A filter; the subject is missing in a filter block. -/
  | filter (name : String) (subject : Option Expr) (args : List Argument)
  | test (name : String) (subject : Expr) (args : List Argument)
  | attribute (subject : Expr) (name : String)
  | item (subject subscript : Expr)
  | call (c : Call)
  | list (items : List Expr)
  | map (entries : List Entry)

/-- One more comparison of a chain; `negated` tells `not in` from `in`. -/
inductive Link where
  | mk (op : BinaryOp) (negated : Bool) (operand : Expr)

/-- An entry of a map. -/
inductive Entry where
  | mk (key value : Expr)

/-- An argument of a call. -/
inductive Argument where
  | positional (value : Expr)
  | keyword (name : String) (value : Expr)
  | splat (value : Expr)
  | keywordSplat (value : Expr)

/-- A call, and the byte offset it is reported at. -/
inductive Call where
  | mk (start : Nat) (callee : Expr) (args : List Argument)

end

/-- How messages call an expression. -/
def Expr.shape : Expr → String
  | .var _ => "variable"
  | .constant _ => "constant"
  | .filter _ _ _ => "filter expression"
  | .test _ _ _ => "test expression"
  | .call _ => "call"
  | .list _ => "list literal"
  | .map _ => "map literal"
  | _ => "expression"

/-- An assignment of a `with` tag. -/
structure Binding where
  target : Expr
  value : Expr

/-- A statement. -/
inductive Stmt where
  /-- Text that is printed as it stands. -/
  | data (text : List Char)
  /-- An expression that is printed. -/
  | emit (value : Expr)
  | forLoop (target iter : Expr) (filter : Option Expr) (body otherwise : List Stmt)
  | ifElse (test : Expr) (body otherwise : List Stmt)
  | withBlock (bindings : List Binding) (body : List Stmt)
  | set (target value : Expr)
  | setBlock (target : Expr) (filter : Option Expr) (body : List Stmt)
  | autoEscape (enabled : Expr) (body : List Stmt)
  | filterBlock (filter : Expr) (body : List Stmt)
  | block (name : String) (body : List Stmt)
  | extend (name : Expr)
  | embed (name : Expr)
  /-- `import source as name` -/
  | importAs (source name : Expr)
  /-- `from source import …`, the names imported and what they are called here. -/
  | importFrom (source : Expr) (names : List (Expr × Option Expr))
  | define (name : String) (params defaults : List Expr) (body : List Stmt)
  | callBlock (call : Call) (params defaults : List Expr) (body : List Stmt)
  | perform (call : Call)

/-- A template. -/
structure Tree where
  body : List Stmt

end PotCatalog.Template
