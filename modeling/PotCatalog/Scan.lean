/-
  The files that sources stand for.

  A source is a file, which is taken whatever it is, a directory, which is
  walked for files with a known extension, or a pattern, of which all matching
  files are taken and all matching directories walked.  Files that are found
  and not named can be ignored.  The result lists each file once, by its name
  below the base directory, in the order of the sources.
-/
import PotCatalog.Config.Validate
import PotCatalog.Files.Walk
import PotCatalog.Glob.Expand

namespace PotCatalog

/-! ## Notices -/

/-- Something that a scan passes over. -/
inductive Notice where
  /-- A directory that could not be walked. -/
  | walkBlocked (path : Path)
  /-- A directory that could not be compared with a pattern. -/
  | listBlocked (path : Path) (error : SystemError)
  /-- A pattern without matches. -/
  | noMatch (source : String)
  deriving DecidableEq, Repr

namespace Notice

/-- Whether something was skipped. -/
def isSkip : Notice → Bool
  | walkBlocked _ | listBlocked _ _ => true
  | noMatch _ => false

/-- The wording of a notice. -/
def message : Notice → String
  | walkBlocked path =>
    "Cannot access path: IO error for operation on " ++ path.text ++ ": " ++
      SystemError.accessDenied.message
  | listBlocked path error =>
    "Cannot access path: attempting to read `" ++ path.text ++ "` resulted in an error: " ++
      error.message
  | noMatch source => "Pattern matched no files: " ++ source

/-- A notice as it is shown. -/
def text (notice : Notice) : StyledText :=
  [styled [.bold, .yellow] "warning:", plain (" " ++ notice.message ++ "\n")]

end Notice

/-! ## Sources -/

/-- What a scan works with. -/
structure Scanner where
  tree : FileTree
  base : Path
  ignores : List Glob.Pattern
  extensions : ExtensionMap

/-- What a source stands for. -/
structure Found where
  files : List String
  notices : List Notice
  deriving DecidableEq, Repr

namespace Found

/-- Nothing. -/
def nothing : Found := ⟨[], []⟩

/-- One file. -/
def file (name : String) : Found := ⟨[name], []⟩

/-- One notice. -/
def notice (n : Notice) : Found := ⟨[], [n]⟩

/-- Everything that was found, in order. -/
def join (parts : List Found) : Found :=
  ⟨parts.flatMap Found.files, parts.flatMap Found.notices⟩

end Found

namespace Scanner

/-- The name of a path below the base directory. -/
def nameOf (s : Scanner) (p : Path) : String := displayPath s.base p

/-- Whether a path that is found is to be ignored. -/
def isIgnored (s : Scanner) (p : Path) : Bool := s.ignores.any (·.isMatch (s.nameOf p))

/-- What is taken of a step of a walk. -/
def ofVisit (s : Scanner) : Visit → Found
  | .file p => if s.extensions.supports p && !s.isIgnored p then .file (s.nameOf p) else .nothing
  | .blocked p => .notice (.walkBlocked p)

/-- What a directory stands for. -/
def ofFolder (s : Scanner) (p : Path) : Found := .join ((s.tree.walk p).map s.ofVisit)

/-- What is taken of a match of a pattern. -/
def ofHit (s : Scanner) : Glob.Hit → Found
  | .path p =>
    if s.tree.isFolder p then s.ofFolder p
    else if s.isIgnored p then .nothing
    else .file (s.nameOf p)
  | .unreadable p error => .notice (.listBlocked p error)

/-- Whether a pattern matched something. -/
def isMatched (hits : List Glob.Hit) : Bool :=
  hits.any fun
    | .path _ => true
    | .unreadable _ _ => false

/-- What a pattern stands for. -/
def ofPattern (s : Scanner) (source : String) : Except RunError Found := do
  let pattern ← (Glob.PathPattern.parse (s.base.join ⟨source⟩).text).mapError (.badSource source)
  let hits := pattern.expand s.tree
  return .join (hits.map s.ofHit ++ if isMatched hits then [] else [.notice (.noMatch source)])

/-- What a file or directory stands for. -/
def ofPath (s : Scanner) (p : Path) : Except RunError Found :=
  if s.tree.isFolder p then .ok (s.ofFolder p)
  else if s.tree.isFile p then .ok (.file (s.nameOf p))
  else .error (.missingSource p)

/-- What a source stands for. -/
def ofSource (s : Scanner) (source : String) : Except RunError Found :=
  if Glob.isPattern source then s.ofPattern source else s.ofPath (s.base.join ⟨source⟩)

end Scanner

/-! ## Scans -/

/-- The result of a scan. -/
structure Scan where
  files : List String
  skipped : Nat
  deriving DecidableEq, Repr

namespace Scan

/-- Adds files that are not listed yet. -/
def addFiles (known : List String) : List String → List String
  | [] => known
  | file :: rest => addFiles (if file ∈ known then known else known ++ [file]) rest

/-- Adds what a source stands for. -/
def add (scan : Scan) (found : Found) : Scan :=
  ⟨addFiles scan.files found.files, scan.skipped + found.notices.countP Notice.isSkip⟩

end Scan

/-- Scans further sources. -/
def Scanner.scanFrom (s : Scanner) (verbose : Bool) (scan : Scan) : List String → Logged Scan
  | [] => return scan
  | source :: rest => do
    let found ← .lift (s.ofSource source)
    .say (if verbose then found.notices.flatMap Notice.text else [])
    s.scanFrom verbose (scan.add found) rest

/-- Finds the files that sources stand for. -/
def scanSources (t : FileTree) (base : Path) (sources ignores : List String)
    (extensions : ExtensionMap) (verbose : Bool) : Logged Scan := do
  let patterns ← .lift (readIgnores ignores)
  Scanner.scanFrom ⟨t, base, patterns, extensions⟩ verbose ⟨[], 0⟩ sources

end PotCatalog
