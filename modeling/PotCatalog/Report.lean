/-
  Reports of issues.

  Each issue is shown with its severity, headline, rule and place.  A position
  in a source is shown with its line and a caret below; a note may follow.
  The report ends with the numbers of errors and warnings.  It breaks off at a
  caret that stands too far to the right to be printed.  How far to the right a
  caret stands is up to the measure of texts.
-/
import PotCatalog.Issue
import PotCatalog.Text.Style
import PotCatalog.Text.Width

namespace PotCatalog

/-- The mark of success. -/
def successMark : String := "\u2713"

/-- The mark of failure. -/
def failureMark : String := "\u2718"

/-- A count with the right word. -/
def counted (count : Nat) (one many : String) : String :=
  toString count ++ " " ++ (if count = 1 then one else many)

/-- Blanks. -/
def blanks (n : Nat) : String := String.ofList (List.replicate n ' ')

/-- A text with blanks before it up to a width. -/
def padLeft (width : Nat) (text : String) : String := blanks (width - text.length) ++ text

variable [TextMeasure]

namespace Report

/-- The colour of a severity. -/
def severityColor : Severity → Style
  | .error => .red
  | .warning => .yellow

/-- The width of the margin: the digits of the largest line number shown. -/
def marginWidth (issues : List Issue) : Nat :=
  let shown := issues.filterMap fun issue =>
    match issue.place with
    | .source context => some context.position.line
    | _ => none
  match shown.max? with
  | some line => (toString line).length
  | none => 1

/-- The columns before the caret: the width of the characters before it. -/
def caretPadding (context : Context) : Nat :=
  textWidth (context.text.toList.take (context.position.column - 1))

/-- The most columns that can stand before a caret. -/
def caretLimit : Nat := 65535

/-- Whether the caret of an issue, if it has one, can be printed. -/
def fits (issue : Issue) : Bool :=
  match issue.place with
  | .source context => caretPadding context ≤ caretLimit
  | _ => true

/-- A line of the source, below an empty one. -/
def excerpt (margin : Nat) (context : Context) : StyledText :=
  [plain (blanks margin ++ " "), styled [.blue] "|", plain "\n",
   styled [.blue] (padLeft margin (toString context.position.line)), plain " ",
   styled [.blue] "|", plain (" " ++ context.text ++ "\n")]

/-- The caret below a line of the source. -/
def caretLine (margin : Nat) (severity : Severity) (context : Context) : StyledText :=
  [plain (blanks margin ++ " "), styled [.blue] "|",
   plain (" " ++ blanks (caretPadding context)), styled [severityColor severity] "^", plain "\n"]

/-- The line that names a place. -/
def pointer (text : String) : StyledText :=
  [plain "  ", styled [.blue] "-->", plain (" " ++ text ++ "\n")]

/-- The place of an issue. -/
def placeLines (margin : Nat) : Place → StyledText
  | .source context =>
    pointer (context.file ++ ":" ++ toString context.position.line ++ ":" ++
      toString context.position.column) ++ excerpt margin context
  | .line location => pointer location.text
  | .file path => pointer path

/-- A line of a note. -/
def noteLine (margin : Nat) (label detail : String) : StyledText :=
  [plain (blanks margin ++ " "), styled [.blue] "=", plain " ", styled [.bold] label,
   plain (" " ++ detail ++ "\n")]

/-- A note, one line for each of its lines. -/
def note (margin : Nat) (details : String) : StyledText :=
  match textLines details with
  | [] => []
  | first :: rest => noteLine margin "note:" first ++ rest.flatMap (noteLine margin "     ")

/-- The lines of an issue above its caret. -/
def issueHead (margin : Nat) (issue : Issue) : StyledText :=
  [styled [.bold, severityColor issue.severity] issue.severity.name,
   plain (": " ++ issue.headline ++ "  "), styled [.dimmed, .cyan] issue.rule, plain "\n"] ++
    placeLines margin issue.place

/-- The caret of an issue and the lines below it. -/
def issueTail (margin : Nat) (issue : Issue) : StyledText :=
  (match issue.place with
   | .source context => caretLine margin issue.severity context
   | _ => []) ++
    (match issue.details with
     | some details => note margin details
     | none => []) ++
    [plain "\n"]

/-- An issue with all its lines. -/
def issueLines (margin : Nat) (issue : Issue) : StyledText :=
  issueHead margin issue ++ issueTail margin issue

/-- The last line of a report. -/
def summary (issues : List Issue) : StyledText :=
  let errors := countSeverity .error issues
  let warnings := countSeverity .warning issues
  let total := errors + warnings
  [styled [.red] failureMark, plain (" " ++ counted total "problem" "problems" ++ " (" ++
     toString errors ++ " "),
   styled [.red] (if errors = 1 then "error" else "errors"),
   plain (", " ++ toString warnings ++ " "),
   styled [.yellow] (if warnings = 1 then "warning" else "warnings"), plain ")\n"]

end Report

/-- What is printed of a report. -/
structure Report where
  text : StyledText
  /-- Whether the report was printed to its end. -/
  isComplete : Bool

/-- The report of issues; without issues there is none. -/
def report (issues : List Issue) : Report :=
  let margin := Report.marginWidth issues
  let printed := (issues.takeWhile Report.fits).flatMap (Report.issueLines margin)
  match issues.dropWhile Report.fits with
  | wide :: _ => ⟨printed ++ Report.issueHead margin wide, false⟩
  | [] => ⟨if issues.isEmpty then [] else printed ++ Report.summary issues, true⟩

end PotCatalog
