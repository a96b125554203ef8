/-
  Configurations that make sense.

  Patterns have to be well formed, outputs and extensions not empty, and no
  extension may belong to templates and scripts at once.
-/
import PotCatalog.Config.Basic
import PotCatalog.RunError
import PotCatalog.Text.Blank

namespace PotCatalog

/-- Reads the patterns of files to be ignored. -/
def readIgnores (ignores : List String) : Except RunError (List Glob.Pattern) :=
  ignores.mapM fun text => (Glob.Pattern.parse text).mapError (.badIgnore text)

namespace Config

/-- Checks a source of a target. -/
def checkSource (output source : String) : Except RunError Unit :=
  if Glob.isPattern source then
    match Glob.Pattern.parse source with
    | .ok _ => .ok ()
    | .error fault => .error (.badTarget output source fault)
  else .ok ()

/-- Checks a target. -/
def checkTarget (t : Target) : Except RunError Unit :=
  if (trim t.output.toList).isEmpty then .error .emptyOutput
  else t.sources.forM (checkSource t.output)

/-- Checks an extension of templates against those of scripts. -/
def checkTemplateExtension (scripts : List String) (text : String) : Except RunError Unit :=
  let extension := normalizeExtension text
  if extension.isEmpty then .error (.emptyExtension .template)
  else if extension ∈ scripts.map normalizeExtension then .error (.sharedExtension extension)
  else .ok ()

/-- Checks that no extension of scripts is empty. -/
def checkScriptExtensions (scripts : List String) : Except RunError Unit :=
  if "" ∈ scripts.map normalizeExtension then .error (.emptyExtension .script) else .ok ()

/-- Checks a configuration. -/
def validate (c : Config) : Except RunError Unit := do
  let _ ← readIgnores c.ignores
  c.targets.forM checkTarget
  c.templateExtensions.forM (checkTemplateExtension c.scriptExtensions)
  checkScriptExtensions c.scriptExtensions

end Config

end PotCatalog
