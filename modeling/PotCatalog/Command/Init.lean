/-
  Making a configuration file.
-/
import PotCatalog.Command.Outcome
import PotCatalog.Config.Basic

namespace PotCatalog

/-- Writes a new configuration file, unless there is one. -/
def runInit (t : FileTree) (options : InitOptions) : Outcome :=
  let path := options.root.join ⟨configFileName⟩
  if t.pathExists path then
    ⟨t, .failure, [], [styled [.bold, .red] "error:", plain (" " ++ configFileName ++ " already exists\n")]⟩
  else
    match t.write path Config.starter.text.toUTF8 with
    | .error e => .aborted t [] [] (.notWritten path e)
    | .ok written =>
      ⟨written, .success,
       [styled [.green] successMark, plain " ", styled [.green] ("Created " ++ path.text), plain "\n"], []⟩

end PotCatalog
