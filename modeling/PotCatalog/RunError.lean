/-
  Why a run is abandoned.

  A `RunError` ends a run before its catalogs are complete, in contrast to an
  issue of a source, which is reported and passed over.
-/
import PotCatalog.Files.Tree
import PotCatalog.Glob.Pattern
import PotCatalog.Json.Fault
import PotCatalog.Message
import PotCatalog.Text.Style

namespace PotCatalog

/-! ## Causes -/

/-- Why a run is abandoned. -/
inductive RunError where
  /-- A file that is neither a template nor a script. -/
  | unsupportedFile (file : String)
  | badIgnore (pattern : String) (fault : Glob.Fault)
  | badTarget (output source : String) (fault : Glob.Fault)
  | badSource (source : String) (fault : Glob.Fault)
  | missingSource (path : Path)
  | emptyOutput
  | emptyExtension (kind : SourceKind)
  | sharedExtension (extension : String)
  | unreadableConfig (path : Path) (error : SystemError)
  | malformedConfig (path : Path) (fault : Json.Fault)
  | nothingToDo
  | folderNotMade (path : Path) (error : SystemError)
  | notWritten (path : Path) (error : SystemError)
  deriving DecidableEq, Repr

/-- The key that lists the extensions of a kind in a configuration. -/
def SourceKind.extensionKey : SourceKind → String
  | template => "templateExtensions"
  | script => "scriptExtensions"

/-- The wording of an error. -/
def RunError.message : RunError → String
  | unsupportedFile file =>
    let extension := match (Path.mk file).extension? with
      | some extension => "." ++ extension
      | none => ""
    "No extraction method defined for extension " ++ extension ++ " (" ++ file ++ ")"
  | badIgnore pattern fault =>
    "Invalid glob pattern in 'ignores': \"" ++ pattern ++ "\": " ++ fault.message
  | badTarget output source fault =>
    "Invalid glob pattern in 'targets' for \"" ++ output ++ "\": \"" ++ source ++ "\": " ++
      fault.message
  | badSource source fault =>
    "Invalid glob pattern in sources: \"" ++ source ++ "\": " ++ fault.message
  | missingSource path => "Source path does not exist: " ++ path.text
  | emptyOutput => "Target output path in 'targets' must not be empty"
  | emptyExtension kind => "Empty extension in '" ++ kind.extensionKey ++ "'"
  | sharedExtension extension =>
    "Extension \"" ++ extension ++ "\" is listed in both 'templateExtensions' and 'scriptExtensions'"
  | unreadableConfig path error =>
    "Failed to read config file: " ++ quotedText path.text ++ ": " ++ error.message
  | malformedConfig path fault =>
    "Failed to parse config file: " ++ quotedText path.text ++ ": " ++ fault.message
  | nothingToDo => "No sources given and no targets configured in .potgenrc.json"
  | folderNotMade path error =>
    "Failed to create directory " ++ path.text ++ ": " ++ error.message
  | notWritten path error => "Failed to write " ++ path.text ++ ": " ++ error.message

/-! ## Steps that are told about -/

/-- What a step says on its way, and what it comes to. -/
structure Logged (α : Type) where
  log : StyledText
  result : Except RunError α

namespace Logged

/-- A step that says nothing. -/
def lift {α : Type} (result : Except RunError α) : Logged α := ⟨[], result⟩

/-- A step that only says something. -/
def say (text : StyledText) : Logged Unit := ⟨text, .ok ()⟩

/-- One step after another; an error ends them. -/
def andThen {α β : Type} (x : Logged α) (f : α → Logged β) : Logged β :=
  match x.result with
  | .error e => ⟨x.log, .error e⟩
  | .ok a => ⟨x.log ++ (f a).log, (f a).result⟩

instance : Monad Logged where
  pure a := lift (.ok a)
  bind := andThen

end Logged

end PotCatalog
