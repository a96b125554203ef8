/-
  Configurations.

  A configuration names the catalogs to be made and their sources, the files to
  be ignored, and the extensions of templates and scripts.
-/
import PotCatalog.Extension
import PotCatalog.Json.Writer

namespace PotCatalog

/-- The name of the configuration file. -/
def configFileName : String := ".potgenrc.json"

/-- A catalog to be made: its path and its sources. -/
structure Target where
  output : String
  sources : List String
  deriving DecidableEq, Repr

/-- A configuration. -/
structure Config where
  targets : List Target
  ignores : List String
  templateExtensions : List String
  scriptExtensions : List String
  deriving DecidableEq, Repr

namespace Config

/-- What holds without a configuration file. -/
def default : Config := ⟨[], [], defaultTemplateExtensions, defaultScriptExtensions⟩

/-- What a new configuration file holds. -/
def starter : Config :=
  { default with
    targets := [⟨"locale/messages.pot", ["templates", "static/js"]⟩]
    ignores := ["**/node_modules/**"] }

/-- The kinds of sources by extension. -/
def extensionMap (c : Config) : ExtensionMap :=
  .ofLists c.templateExtensions c.scriptExtensions

/-- A configuration as it is written to a file. -/
def text (c : Config) : String :=
  Json.objectText 0
    [("targets", Json.objectText 1 (c.targets.map fun t => (t.output, Json.stringsText 2 t.sources))),
     ("ignores", Json.stringsText 1 c.ignores),
     ("templateExtensions", Json.stringsText 1 c.templateExtensions),
     ("scriptExtensions", Json.stringsText 1 c.scriptExtensions)]

end Config

end PotCatalog
