/-
  The contents of a catalog from its files.

  `planFiles` chooses how each file is read, before any file is read.
  `buildCatalog` reads the files and joins their messages; a file that cannot
  be read is an issue and leaves the other files as they are.
-/
import PotCatalog.Extension
import PotCatalog.Extract
import PotCatalog.RunError

namespace PotCatalog

/-- A file to be read, and how. -/
structure Job where
  file : String
  kind : SourceKind
  deriving DecidableEq, Repr

/-- Chooses how a file is read. -/
def planFile (extensions : ExtensionMap) (file : String) : Except RunError Job :=
  match extensions.kindFor ⟨file⟩ with
  | some kind => .ok ⟨file, kind⟩
  | none => .error (.unsupportedFile file)

/-- Chooses how files are read. -/
def planFiles (extensions : ExtensionMap) (files : List String) : Except RunError (List Job) :=
  files.mapM (planFile extensions)

/-- What a file yields. -/
def runJob (t : FileTree) (base : Path) (job : Job) : Extraction :=
  match t.read (base.join ⟨job.file⟩) with
  | .ok source => extract job.kind job.file source
  | .error e => .readFailure job.file e.message

/-- The contents of a catalog. -/
def buildCatalog (t : FileTree) (base : Path) (jobs : List Job) : CatalogData :=
  merge (jobs.map (runJob t base))

end PotCatalog
