/-
  The call sites of a script.

  A call is reported where its callee starts.  The callee has a name if it is
  a variable, and an argument is a literal if it is a string that is no half
  character; both may stand in parentheses.
-/
import PotCatalog.Marker
import PotCatalog.ParseError
import PotCatalog.Script.Calls
import PotCatalog.Script.Module
import PotCatalog.Script.Place

namespace PotCatalog.Script

/-- An expression without the parentheses around it. -/
def Expr.bare : Expr → Expr
  | .mk _ (.paren inner) => inner.bare
  | e => e

/-- The name that a call calls, if its callee is a variable. -/
def Call.name? (c : Call) : Option String :=
  match c.callee.bare.form with
  | .name name => some name
  | _ => none

/-- An argument as markers see it. -/
def Expr.argument (e : Expr) : CallArgument :=
  match e.bare.form with
  | .text value _ =>
    match value.text? with
    | some text => .literal text
    | none => .expression
  | _ => .expression

/-- A call as markers see it. -/
def Call.site (text : List Char) (c : Call) : CallSite :=
  ⟨c.name?, positionIn text c.start, c.args.map Expr.argument⟩

/-- A source without the mark of its byte order. -/
def withoutMark : List Char → List Char
  | c :: cs => if c.toNat == 0xFEFF then cs else c :: cs
  | [] => []

/-- A failure as an error of the source. -/
def Failure.error (text : List Char) (f : Failure) : ParseError :=
  ParseError.located (positionIn text f.offset) f.fault.message

/-- Parses the source of a script. -/
def read (source : String) : Except ParseError Program :=
  let text := withoutMark source.toList
  match parse text with
  | .ok program => .ok program
  | .error failure => .error (failure.error text)

/-- The call sites of a script. -/
def sites (source : String) : Except ParseError (List CallSite) :=
  match read source with
  | .ok program => .ok (program.calls.map (Call.site (withoutMark source.toList)))
  | .error e => .error e

end PotCatalog.Script
