/-
  How a run ends.
-/
import PotCatalog.Command.Arguments
import PotCatalog.Report
import PotCatalog.RunError

namespace PotCatalog

/-- The status of a run that has ended. -/
inductive ExitStatus where
  /-- All is well. -/
  | success
  /-- The run came to its end and found errors. -/
  | failure
  /-- The run was abandoned. -/
  | aborted
  /-- The run broke down while it printed its report. -/
  | crashed
  deriving DecidableEq, Repr

/-- The exit code of a status. -/
def ExitStatus.code : ExitStatus → Nat
  | success => 0
  | failure => 1
  | aborted => 2
  | crashed => 101

/-- What a run leaves behind. -/
structure Outcome where
  tree : FileTree
  status : ExitStatus
  stdout : StyledText
  stderr : StyledText

/-- How a run ends that is abandoned. -/
def Outcome.aborted (tree : FileTree) (stdout log : StyledText) (e : RunError) : Outcome :=
  ⟨tree, .aborted, stdout, log ++ [plain ("Error: " ++ e.message ++ "\n")]⟩

end PotCatalog
