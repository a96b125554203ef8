/-
  What a run has found.

  The issues of all targets are put in the order of their places and counted.
-/
import PotCatalog.Issue

namespace PotCatalog

/-- The issues that a run has found, in order, and how many there are. -/
structure Findings where
  issues : List Issue
  /-- The files that could not be read or parsed. -/
  parseErrors : Nat
  errors : Nat
  warnings : Nat
  deriving DecidableEq, Repr

/-- Orders and counts issues. -/
def Findings.of (issues : List Issue) : Findings :=
  let sorted := Issue.sort issues
  { issues := sorted
    parseErrors := sorted.countP Issue.isParseError
    errors := countSeverity .error sorted
    warnings := countSeverity .warning sorted }

end PotCatalog
