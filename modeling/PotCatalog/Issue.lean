/-
  What can be wrong with the sources.

  An `Issue` is a file that could not be read or parsed, a marker call that is
  refused, or a message with two different plural forms.  The first two are
  errors, the last is a warning.  Issues are listed by place: `Issue.le` orders
  them by file, then line, then column.
-/
import PotCatalog.Message
import PotCatalog.Text.Lines

namespace PotCatalog

/-! ## Places -/

/-- A place in a file, with the text of the line it is on. -/
structure Context where
  file : String
  position : Position
  text : String
  deriving DecidableEq, Repr

/-- The context of a position; a line that does not exist is empty. -/
def Context.of (file source : String) (position : Position) : Context :=
  ⟨file, position, (lineAt source position.line).getD ""⟩

/-- Where a report points at. -/
inductive Place where
  /-- A position, shown with its line. -/
  | source (context : Context)
  | line (location : Location)
  | file (path : String)
  deriving DecidableEq, Repr

/-! ## Issues -/

/-- Why a marker call is refused. -/
inductive Refusal where
  /-- A singular marker without arguments. -/
  | emptyCall
  /-- A plural marker with too few arguments. -/
  | incompletePlural (kind : SourceKind)
  /-- Something else than a string where a message belongs. -/
  | nonLiteral
  /-- A marker that is neither singular nor plural. -/
  | unknownMarker (name : String)
  deriving DecidableEq, Repr

/-- The wording of a refusal. -/
def Refusal.message : Refusal → String
  | emptyCall => "Empty gettext call"
  | incompletePlural .template => "Incomplete plural gettext call"
  | incompletePlural .script => "Incomplete ngettext call"
  | nonLiteral => "Cannot localize non-literal"
  | unknownMarker _ => "Unknown type of localization"

/-- A message that was found with another plural form than the first time. -/
structure PluralConflict where
  location : Location
  msgid : String
  /-- The plural form of the first time, which stays. -/
  kept : Option String
  conflicting : Option String
  deriving DecidableEq, Repr

/-- Something that is wrong with the sources. -/
inductive Issue where
  /-- A file that could not be read or parsed. -/
  | parseError (file : String) (context : Option Context) (error : String)
  /-- A marker call that is refused. -/
  | invalidCall (context : Context) (reason : Refusal)
  | pluralConflict (conflict : PluralConflict)
  deriving DecidableEq, Repr

/-- How bad an issue is. -/
inductive Severity where
  | error
  | warning
  deriving DecidableEq, Repr

/-- The word for a severity. -/
def Severity.name : Severity → String
  | error => "error"
  | warning => "warning"

namespace Issue

/-- How bad an issue is: only conflicts of plural forms are no errors. -/
def severity : Issue → Severity
  | parseError _ _ _ | invalidCall _ _ => .error
  | pluralConflict _ => .warning

/-- The name of the rule that an issue breaks. -/
def rule : Issue → String
  | parseError _ _ _ => "parse-error"
  | invalidCall _ _ => "invalid-call"
  | pluralConflict _ => "plural-conflict"

/-- Where an issue is. -/
def place : Issue → Place
  | parseError _ (some context) _ => .source context
  | parseError file none _ => .file file
  | invalidCall context _ => .source context
  | pluralConflict conflict => .line conflict.location

/-- The wording of a refused call. -/
def refusalText (context : Context) (reason : Refusal) : String :=
  reason.message ++ " at " ++ context.file ++ ":" ++ toString context.position.line

/-- The wording of a conflict. -/
def conflictText (conflict : PluralConflict) : String :=
  "Conflicting plural form for \"" ++ conflict.msgid ++ "\" at " ++ conflict.location.text

/-- An issue on its own. -/
def text : Issue → String
  | parseError file (some context) error =>
    "Error while parsing " ++ file ++ ":" ++ toString context.position.line ++ ":" ++
      toString context.position.column ++ "\n" ++ error
  | parseError file none error => "Error while parsing " ++ file ++ "\n" ++ error
  | invalidCall context reason => refusalText context reason
  | pluralConflict conflict => conflictText conflict

/-- The headline of an issue in a report. -/
def headline : Issue → String
  | parseError file _ _ => "Error while parsing " ++ file
  | invalidCall context reason => refusalText context reason
  | pluralConflict conflict => conflictText conflict

/-- A plural form as it is named in a note. -/
def describePlural : Option String → String
  | some text => "\"" ++ text ++ "\""
  | none => "(none)"

/-- The note below an issue in a report. -/
def details : Issue → Option String
  | parseError _ _ error => some error
  | invalidCall _ (.unknownMarker name) => some ("marker: " ++ name)
  | invalidCall _ _ => none
  | pluralConflict conflict =>
    some ("kept plural " ++ describePlural conflict.kept ++ ", ignored plural " ++
      describePlural conflict.conflicting)

/-- Whether an issue is a file that could not be read or parsed. -/
def isParseError : Issue → Bool
  | parseError _ _ _ => true
  | _ => false

/-! ## Order -/

/-- What issues are ordered by: file, line and column, with zero for what an
    issue does not have. -/
def key (issue : Issue) : String × Nat × Nat :=
  match issue.place with
  | .source context => (context.file, context.position.line, context.position.column)
  | .line location => (location.path, location.line, 0)
  | .file path => (path, 0, 0)

/-- Whether an issue may stand before another one. -/
def le (a b : Issue) : Bool :=
  let (pathA, lineA, columnA) := a.key
  let (pathB, lineB, columnB) := b.key
  pathA < pathB || (pathA == pathB && (lineA < lineB || (lineA == lineB && columnA ≤ columnB)))

/-- Issues in the order of their places; those at one place keep theirs. -/
def sort (issues : List Issue) : List Issue := issues.mergeSort le

end Issue

/-- The number of issues of a severity. -/
def countSeverity (severity : Severity) (issues : List Issue) : Nat :=
  issues.countP (·.severity = severity)

end PotCatalog
