/-
  The calls of a script.

  `Program.calls` lists the calls of a script from top to bottom: a call stands
  before the calls in its callee and its arguments, and the parts of everything
  else follow each other in the order of the tree.
-/
import PotCatalog.Script.Tree

namespace PotCatalog.Script

/-- A call, and the byte offset it starts at. -/
structure Call where
  start : Nat
  callee : Expr
  args : List Expr

mutual

/-- The calls of an expression. -/
def Expr.calls : Expr → List Call
  | .mk start form => form.calls start

/-- The calls of a form that starts at a byte offset. -/
def Form.calls (start : Nat) : Form → List Call
  | .name _ | .text _ _ | .constant _ | .this | .base | .loader | .metaProperty | .privateName _
  | .hole | .shorthand _ | .missing => []
  | .template substitutions => listCalls substitutions
  | .tagged tag substitutions => tag.calls ++ listCalls substitutions
  | .array items => listCalls items
  | .object members => listCalls members
  | .spread value => value.calls
  | .shorthandDefault _ value => value.calls
  | .pair key value => key.calls ++ value.calls
  | .computed value => value.calls
  | .method key params body => key.calls ++ listCalls params ++ bodyCalls body
  | .field key value => key.calls ++ optionCalls value
  | .initializer body => bodyCalls body
  | .function params body => listCalls params ++ bodyCalls body
  | .arrow params body => listCalls params ++ bodyCalls body
  | .classOf members base => listCalls members ++ optionCalls base
  | .paren inner => inner.calls
  | .sequence items => listCalls items
  | .unary _ operand => operand.calls
  | .update _ operand => operand.calls
  | .await operand => operand.calls
  | .yield operand => optionCalls operand
  | .binary _ left right => left.calls ++ right.calls
  | .conditional test value otherwise => test.calls ++ value.calls ++ otherwise.calls
  | .assign _ target value => target.calls ++ value.calls
  | .member subject key => subject.calls ++ key.calls
  | .optionalMember subject key => subject.calls ++ key.calls
  | .call callee args => ⟨start, callee, args⟩ :: (callee.calls ++ listCalls args)
  | .optionalCall callee args => callee.calls ++ listCalls args
  | .construct callee args => callee.calls ++ listCalls args
  | .declarator target value => target.calls ++ optionCalls value

/-- The calls of an expression that may be missing. -/
def optionCalls : Option Expr → List Call
  | none => []
  | some e => e.calls

/-- The calls of expressions in a row. -/
def listCalls : List Expr → List Call
  | [] => []
  | e :: es => e.calls ++ listCalls es

/-- The calls of a statement. -/
def Stmt.calls : Stmt → List Call
  | .empty | .jump => []
  | .expr e => e.calls
  | .declare declarators => listCalls declarators
  | .define value => value.calls
  | .block body => bodyCalls body
  | .ifElse test body otherwise => test.calls ++ body.calls ++ optionBodyCalls otherwise
  | .forLoop init test step body =>
    optionBodyCalls init ++ optionCalls test ++ optionCalls step ++ body.calls
  | .forEach target subject body => target.calls ++ subject.calls ++ body.calls
  | .whileLoop test body => test.calls ++ body.calls
  | .doLoop test body => test.calls ++ body.calls
  | .returning value => optionCalls value
  | .throwing value => value.calls
  | .switch subject cases => subject.calls ++ bodyCalls cases
  | .switchCase test body => optionCalls test ++ bodyCalls body
  | .tryCatch body handler cleanup =>
    body.calls ++ optionBodyCalls handler ++ optionBodyCalls cleanup
  | .handler param body => optionCalls param ++ body.calls
  | .withScope scope body => scope.calls ++ body.calls
  | .labelled _ body => body.calls
  | .link attributes => optionCalls attributes
  | .exporting declaration => declaration.calls
  | .exportDefault value => value.calls

/-- The calls of a statement that may be missing. -/
def optionBodyCalls : Option Stmt → List Call
  | none => []
  | some s => s.calls

/-- The calls of statements in a row. -/
def bodyCalls : List Stmt → List Call
  | [] => []
  | s :: rest => s.calls ++ bodyCalls rest

end

/-- The calls of a script. -/
def Program.calls (p : Program) : List Call := bodyCalls p.body

end PotCatalog.Script
