/-
  Marker calls.

  A marker is a function name that marks its argument as a message.  Each
  kind of source has one marker for a message without and one for a message
  with a plural form.  `MarkerSet.judge` decides about one call, and
  `MarkerSet.collect` about all calls of a file.
-/
import PotCatalog.Issue

namespace PotCatalog

/-- An argument of a call. -/
inductive CallArgument where
  /-- A string, with its escapes decoded. -/
  | literal (text : String)
  /-- Anything else. -/
  | expression
  deriving DecidableEq, Repr

/-- The text of an argument that is a string. -/
def CallArgument.literal? : CallArgument → Option String
  | literal text => some text
  | expression => none

/-- A call found in a source. -/
structure CallSite where
  /-- The name that is called, if it is a plain name. -/
  callee : Option String
  position : Position
  args : List CallArgument
  deriving DecidableEq, Repr

/-- The markers of a kind of source. -/
structure MarkerSet where
  kind : SourceKind
  singular : String
  plural : String
  /-- The least number of arguments of a plural marker. -/
  pluralArguments : Nat
  deriving DecidableEq, Repr

/-- The markers of a kind of source.  In templates the plural marker also
    takes the number that decides between the two forms. -/
def SourceKind.markers : SourceKind → MarkerSet
  | .template => ⟨.template, "_", "_plural", 3⟩
  | .script => ⟨.script, "gettext", "ngettext", 2⟩

/-- What a call amounts to. -/
inductive Verdict where
  /-- The call of something that is no marker. -/
  | ignored
  | message (m : Message)
  | refused (reason : Refusal)
  deriving DecidableEq, Repr

namespace MarkerSet

/-- Whether a name is a marker. -/
def isMarker (markers : MarkerSet) (name : String) : Bool :=
  name == markers.singular || name == markers.plural

/-- Decides about the call of a marker. -/
def judgeMarker (markers : MarkerSet) (name file : String) (call : CallSite) : Verdict :=
  let location : Location := ⟨file, call.position.line⟩
  if name = markers.singular then
    match call.args with
    | [] => .refused .emptyCall
    | first :: _ =>
      match first.literal? with
      | some msgid => .message ⟨msgid, none, [location]⟩
      | none => .refused .nonLiteral
  else if name = markers.plural then
    if call.args.length < markers.pluralArguments then
      .refused (.incompletePlural markers.kind)
    else
      match call.args[0]?.bind CallArgument.literal?, call.args[1]?.bind CallArgument.literal? with
      | some msgid, some plural => .message ⟨msgid, some plural, [location]⟩
      | _, _ => .refused .nonLiteral
  else .refused (.unknownMarker name)

/-- Decides about a call. -/
def judge (markers : MarkerSet) (file : String) (call : CallSite) : Verdict :=
  match call.callee with
  | some name => if markers.isMarker name then markers.judgeMarker name file call else .ignored
  | none => .ignored

/-- The messages of the calls of a file. -/
def messages (markers : MarkerSet) (file : String) (calls : List CallSite) : List Message :=
  calls.filterMap fun call =>
    match markers.judge file call with
    | .message m => some m
    | _ => none

/-- The refused calls of a file. -/
def refusals (markers : MarkerSet) (file source : String) (calls : List CallSite) : List Issue :=
  calls.filterMap fun call =>
    match markers.judge file call with
    | .refused reason => some (.invalidCall (Context.of file source call.position) reason)
    | _ => none

end MarkerSet

end PotCatalog
