/-
  The calls of a template.

  `Tree.calls` lists the calls of a template from top to bottom: a call stands
  before the calls in its callee and its arguments, the test of a conditional
  before its values, and a chain of comparisons is not looked into.
-/
import PotCatalog.Template.Tree

namespace PotCatalog.Template

mutual

/-- The calls of an expression. -/
def Expr.calls : Expr → List Call
  | .var _ | .constant _ => []
  | .slice base start stop step =>
    base.calls ++ optionCalls start ++ optionCalls stop ++ optionCalls step
  | .unary _ operand => operand.calls
  | .binary _ left right => left.calls ++ right.calls
  | .chain _ _ => []
  | .conditional test value otherwise => test.calls ++ value.calls ++ optionCalls otherwise
  | .filter _ subject args => optionCalls subject ++ argumentsCalls args
  | .test _ subject args => subject.calls ++ argumentsCalls args
  | .attribute subject _ => subject.calls
  | .item subject subscript => subject.calls ++ subscript.calls
  | .call c => c.calls
  | .list items => listCalls items
  | .map entries => entriesCalls entries

/-- The calls of an expression that may be missing. -/
def optionCalls : Option Expr → List Call
  | none => []
  | some e => e.calls

/-- The calls of expressions in a row. -/
def listCalls : List Expr → List Call
  | [] => []
  | e :: es => e.calls ++ listCalls es

/-- The calls of the entries of a map. -/
def entriesCalls : List Entry → List Call
  | [] => []
  | .mk key value :: rest => key.calls ++ value.calls ++ entriesCalls rest

/-- The calls of arguments. -/
def argumentsCalls : List Argument → List Call
  | [] => []
  | a :: as => a.calls ++ argumentsCalls as

/-- The calls of an argument. -/
def Argument.calls : Argument → List Call
  | .positional e | .keyword _ e | .splat e | .keywordSplat e => e.calls

/-- A call, and the calls in its callee and its arguments. -/
def Call.calls : Call → List Call
  | .mk start callee args => .mk start callee args :: (callee.calls ++ argumentsCalls args)

end

mutual

/-- The calls of a statement. -/
def Stmt.calls : Stmt → List Call
  | .data _ => []
  | .emit value => value.calls
  | .forLoop target iter filter body otherwise =>
    target.calls ++ iter.calls ++ optionCalls filter ++ bodyCalls body ++ bodyCalls otherwise
  | .ifElse test body otherwise => test.calls ++ bodyCalls body ++ bodyCalls otherwise
  | .withBlock bindings body =>
    bindings.flatMap (fun b => b.target.calls ++ b.value.calls) ++ bodyCalls body
  | .set target value => target.calls ++ value.calls
  | .setBlock target filter body => target.calls ++ optionCalls filter ++ bodyCalls body
  | .autoEscape enabled body => enabled.calls ++ bodyCalls body
  | .filterBlock filter body => filter.calls ++ bodyCalls body
  | .block _ body => bodyCalls body
  | .extend name => name.calls
  | .embed name => name.calls
  | .importAs source name => source.calls ++ name.calls
  | .importFrom source _ => source.calls
  | .define _ _ defaults body => listCalls defaults ++ bodyCalls body
  | .callBlock call _ defaults body => call.calls ++ listCalls defaults ++ bodyCalls body
  | .perform call => call.calls

/-- The calls of statements in a row. -/
def bodyCalls : List Stmt → List Call
  | [] => []
  | s :: rest => s.calls ++ bodyCalls rest

end

/-- The calls of a template. -/
def Tree.calls (t : Tree) : List Call := bodyCalls t.body

end PotCatalog.Template
