/-
  The call sites of a template.

  A call is reported by line and character, and its callee has a name only if
  it is a plain variable.  A positional argument that is one string constant is
  a literal; every other argument is not.
-/
import PotCatalog.Marker
import PotCatalog.ParseError
import PotCatalog.Template.Calls
import PotCatalog.Template.Statement

namespace PotCatalog.Template

/-- The byte offset a call is reported at. -/
def Call.start : Call → Nat
  | .mk start _ _ => start

/-- The name that a call calls, if its callee is a plain variable. -/
def Call.name? : Call → Option String
  | .mk _ (.var name) _ => some name
  | _ => none

/-- The arguments of a call. -/
def Call.args : Call → List Argument
  | .mk _ _ args => args

/-- An argument as markers see it. -/
def Argument.site : Argument → CallArgument
  | .positional (.constant (.text value)) => .literal value
  | _ => .expression

/-- A call as markers see it. -/
def Call.site (text : List Char) (c : Call) : CallSite :=
  ⟨c.name?, Position.atOffset text c.start, c.args.map Argument.site⟩

/-- A failure as an error of the source. -/
def Failure.error (source : String) (f : Failure) : ParseError :=
  ParseError.located (positionAt source f.offset) f.fault.message

/-- The calls of a template. -/
def calls (source : String) : Except ParseError (List Call) :=
  match parse source with
  | .ok tree => .ok tree.calls
  | .error failure => .error (failure.error source)

/-- The call sites of a template. -/
def sites (source : String) : Except ParseError (List CallSite) :=
  match calls source with
  | .ok found => .ok (found.map (Call.site source.toList))
  | .error e => .error e

theorem sites_of_parse {source : String} {tree : Tree} (h : parse source = .ok tree) :
    sites source = .ok (tree.calls.map (Call.site source.toList)) := by
  unfold sites calls
  rw [h]

theorem sites_of_failure {source : String} {f : Failure} (h : parse source = .error f) :
    sites source = .error (f.error source) := by
  unfold sites calls
  rw [h]

end PotCatalog.Template
