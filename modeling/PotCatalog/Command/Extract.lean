/-
  Extracting messages into catalogs.

  A run first plans all its catalogs: it loads the configuration, finds the
  files of every target and chooses how they are read.  Planning looks at the
  tree and never changes it.  Then the catalogs are built and written, or
  printed, one after another.
-/
import PotCatalog.Build
import PotCatalog.Catalog
import PotCatalog.Command.Outcome
import PotCatalog.Config.Load
import PotCatalog.Scan

namespace PotCatalog

/-! ## Planning -/

/-- The path of the catalog if sources are given and no output. -/
def defaultOutput : String := "messages.pot"

/-- A catalog to be made, and the files it is made from. -/
structure PlannedTarget where
  output : String
  jobs : List Job
  deriving DecidableEq, Repr

/-- The catalogs to be made, and the directory that their paths start at. -/
structure Plan where
  base : Path
  targets : List PlannedTarget
  deriving DecidableEq, Repr

/-- What is said about the configuration. -/
def configText (loaded : LoadedConfig) : StyledText :=
  match loaded.path with
  | some path => [styled [.dimmed] "Using config", plain (" " ++ path.text ++ "\n")]
  | none =>
    [styled [.dimmed] ("No " ++ configFileName ++ " found, using defaults"), plain "\n"]

/-- What is said about a target. -/
def scanningText (planned : PlannedTarget) : StyledText :=
  [styled [.dimmed] "Scanning",
   plain (" " ++ toString planned.jobs.length ++ " file(s) for " ++ planned.output ++ "\n")]

/-- The targets of a run and the directory that their paths start at: those of
    the configuration, unless sources are given. -/
def chooseTargets (options : ExtractOptions) (loaded : LoadedConfig) :
    Except RunError (Path × List Target) :=
  if !options.sources.isEmpty then
    .ok (options.root, [⟨options.output.getD defaultOutput, options.sources⟩])
  else if loaded.config.targets.isEmpty then .error .nothingToDo
  else .ok (loaded.baseDir options.root, loaded.config.targets)

/-- Plans a target. -/
def planTarget (t : FileTree) (base : Path) (config : Config) (verbose : Bool) (target : Target) :
    Logged PlannedTarget := do
  let extensions := config.extensionMap
  let scan ← scanSources t base target.sources config.ignores extensions verbose
  let jobs ← .lift (planFiles extensions scan.files)
  let planned : PlannedTarget := ⟨target.output, jobs⟩
  .say (if verbose then scanningText planned else [])
  return planned

/-- Plans a run. -/
def planExtract (t : FileTree) (options : ExtractOptions) : Logged Plan := do
  let loaded ← .lift (loadConfig t options.root)
  .say (if options.verbose then configText loaded else [])
  let (base, targets) ← .lift (chooseTargets options loaded)
  let planned ← targets.mapM (planTarget t base loaded.config options.verbose)
  return ⟨base, planned⟩

/-! ## Writing -/

/-- A catalog that was made. -/
structure TargetSummary where
  output : String
  messageCount : Nat
  fileCount : Nat
  deriving DecidableEq, Repr

/-- How far a run has come. -/
structure Progress where
  tree : FileTree
  printed : String
  summaries : List TargetSummary
  issues : List Issue

/-- Makes the directory of a file, unless that is the working directory. -/
def makeParent (t : FileTree) (path : Path) : FileTree × Except RunError Unit :=
  match path.parent? with
  | some parent =>
    if parent.text.isEmpty then (t, .ok ())
    else
      let (made, result) := t.createFolders parent
      (made, result.mapError (.folderNotMade parent))
  | none => (t, .ok ())

/-- Writes a file and makes its directory. -/
def writeOutput (t : FileTree) (path : Path) (text : String) : FileTree × Except RunError Unit :=
  match makeParent t path with
  | (made, .error e) => (made, .error e)
  | (made, .ok ()) =>
    match made.write path text.toUTF8 with
    | .ok written => (written, .ok ())
    | .error e => (made, .error (.notWritten path e))

namespace Progress

/-- The start of a run. -/
def start (t : FileTree) : Progress := ⟨t, "", [], []⟩

/-- Takes note of a catalog. -/
def note (p : Progress) (target : PlannedTarget) (data : CatalogData) : Progress :=
  { p with
    summaries := p.summaries ++ [⟨target.output, data.messages.length, data.fileCount⟩]
    issues := p.issues ++ data.issues }

/-- The tree has changed. -/
def withTree (p : Progress) (tree : FileTree) : Progress := { p with tree := tree }

/-- A catalog was printed. -/
def print (p : Progress) (text : String) : Progress := { p with printed := p.printed ++ text }

end Progress

/-- Builds the catalogs of a plan and prints or writes them.  An error ends the
    run, and what was written before it stays. -/
def makeCatalogs (date : String) (toStdout : Bool) (base : Path) (p : Progress) :
    List PlannedTarget → Progress × Except RunError Unit
  | [] => (p, .ok ())
  | target :: rest =>
    let data := buildCatalog p.tree base target.jobs
    let text := catalog data.messages date
    if toStdout then
      makeCatalogs date toStdout base ((p.print text).note target data) rest
    else
      match writeOutput p.tree (base.join ⟨target.output⟩) text with
      | (tree, .error e) => (p.withTree tree, .error e)
      | (tree, .ok ()) => makeCatalogs date toStdout base ((p.withTree tree).note target data) rest

/-! ## Runs -/

/-- What is said about a catalog in the end. -/
def summaryText (toStdout isClean : Bool) (summary : TargetSummary) : StyledText :=
  let line := counted summary.messageCount "message" "messages" ++
    (if toStdout then " extracted from " else " written from ") ++
    counted summary.fileCount "file" "files"
  let head := if isClean then [styled [.green] successMark, plain " ", styled [.green] line]
    else [styled [.red] failureMark, plain (" " ++ line)]
  if toStdout then head ++ [plain "\n"]
  else head ++ [plain " ", styled [.dimmed] "->", plain (" " ++ summary.output ++ "\n")]

/-- The status of a run that has made all its catalogs. -/
def finalStatus (issues : List Issue) : ExitStatus :=
  if countSeverity .error issues = 0 then .success else .failure

variable [TextMeasure]

/-- How a run ends that has made all its catalogs.  The catalogs are summed up
    only behind a report that was printed to its end. -/
def finishExtract (toStdout : Bool) (log : StyledText) (p : Progress) : Outcome :=
  let issues := Issue.sort p.issues
  let printed := report issues
  if printed.isComplete then
    let status := finalStatus issues
    let summaries := p.summaries.flatMap (summaryText toStdout (status = .success))
    { tree := p.tree
      status := status
      stdout := plain p.printed :: if toStdout then [] else summaries
      stderr := log ++ printed.text ++ if toStdout then summaries else [] }
  else ⟨p.tree, .crashed, [plain p.printed], log ++ printed.text⟩

/-- Extracts messages into catalogs with the given date. -/
def runExtract (t : FileTree) (date : String) (options : ExtractOptions) : Outcome :=
  let plan := planExtract t options
  match plan.result with
  | .error e => .aborted t [] plan.log e
  | .ok { base, targets } =>
    match makeCatalogs date options.toStdout base (.start t) targets with
    | (p, .error e) => .aborted p.tree [plain p.printed] plan.log e
    | (p, .ok ()) => finishExtract options.toStdout plan.log p

end PotCatalog
