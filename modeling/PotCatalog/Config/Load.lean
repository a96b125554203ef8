/-
  Finding and loading a configuration.

  The configuration file is looked for in a directory and those above it, up to
  the first one that holds a repository.
-/
import PotCatalog.Config.Read
import PotCatalog.Config.Validate

namespace PotCatalog

/-- The name of what makes a directory a repository. -/
def repositoryName : String := ".git"

/-- The first configuration file in the given directories, none of which but
    the last looked at holds a repository. -/
def searchConfig (t : FileTree) : List Path → Option Path
  | [] => none
  | folder :: rest =>
    if t.pathExists (folder.join ⟨configFileName⟩) then some (folder.join ⟨configFileName⟩)
    else if t.pathExists (folder.join ⟨repositoryName⟩) then none
    else searchConfig t rest

/-- The directory where the search for a configuration starts: without dots and
    links if it exists, and as it is written otherwise. -/
def searchStart (t : FileTree) (start : Path) : Path :=
  match t.canonical start with
  | .ok path => path
  | .error _ => start

/-- The configuration file that holds for a directory. -/
def findConfig (t : FileTree) (start : Path) : Option Path :=
  let first := searchStart t start
  searchConfig t (first :: first.ancestors)

/-- A configuration and the file that it is from, if any. -/
structure LoadedConfig where
  config : Config
  path : Option Path
  deriving DecidableEq, Repr

/-- The directory that targets are relative to: that of the configuration file,
    or else the given one. -/
def LoadedConfig.baseDir (loaded : LoadedConfig) (fallback : Path) : Path :=
  (loaded.path.bind Path.parent?).getD fallback

/-- Reads and checks a configuration file. -/
def readConfigFile (t : FileTree) (path : Path) : Except RunError Config := do
  let text ← (t.read path).mapError (.unreadableConfig path)
  let config ← (Config.parse text).mapError (.malformedConfig path)
  config.validate
  return config

/-- Loads the configuration that holds for a directory. -/
def loadConfig (t : FileTree) (start : Path) : Except RunError LoadedConfig :=
  match findConfig t start with
  | none => .ok ⟨.default, none⟩
  | some path => (readConfigFile t path).map (⟨·, some path⟩)

end PotCatalog
