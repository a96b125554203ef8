/-
  The program.

  The directories that a command line is about are loaded as a tree of files,
  the command is run on the tree, and what it has changed is stored.  Planning
  looks only at names and configuration files, so that of all other files only
  those that a plan names are read.
-/
import PotCatalog.Command.Run
import Std.Time.Format

namespace PotCatalog

/-! ## Loading -/

/-- The names from the root to an absolute path. -/
def namesOf (path : String) : List String :=
  (Path.mk path).components.filterMap fun
    | .name text => some text
    | _ => none

/-- An entry of the disk; a directory is read by the given action. -/
def loadEntry (path : String) (readFolder : IO Node) : IO Node := do
  match (← (System.mkFilePath [path]).symlinkMetadata).type with
  | .dir => readFolder
  | .symlink =>
    try return .link ⟨(← IO.FS.realPath path).toString⟩
    catch _ => return .link ⟨path ++ "/missing"⟩
  | _ =>
    if (Path.mk path).fileName? == some configFileName then return .file (← IO.FS.readBinFile path)
    else return .file .empty

/-- A node of the disk, with the contents of configuration files only. -/
partial def loadNode (path : String) : IO Node :=
  loadEntry path do
    try
      let entries ← (System.mkFilePath [path]).readDir
      let mut loaded : Entries := []
      for entry in entries do
        loaded := Entries.set entry.fileName
          (← loadNode ((Path.mk path).join ⟨entry.fileName⟩).text) loaded
      return .folder true loaded
    catch _ => return .folder false []

/-- Puts a node of the disk into a tree. -/
def loadInto (t : FileTree) (path : String) : IO FileTree := do
  try return t.put (namesOf path) (← loadNode path)
  catch _ => return t

/-- Loads a path and what is looked at in the directories above it. -/
def loadStart (t : FileTree) (path : Path) : IO FileTree := do
  let real ← try pure (← IO.FS.realPath path.text).toString catch _ => return t
  let above := (Path.mk real).ancestors
  let mut t := (t.createFolders ((above.head?).getD ⟨"/"⟩)).1
  for folder in above do
    for name in [configFileName, repositoryName] do
      t ← loadInto t (folder.join ⟨name⟩).text
  loadInto t real

/-- The part of a source before its first wildcard. -/
def plainPart (source : String) : Path :=
  let parts := (splitSlash source.toList).takeWhile fun part => !Glob.isPattern (String.ofList part)
  ⟨String.ofList (joinSlash parts)⟩

/-- Loads what a command line is about. -/
def loadFor (t : FileTree) : Command → IO FileTree
  | .init options => loadStart t options.root
  | .extract options => do
    let mut t ← loadStart t options.root
    for source in options.sources do
      t ← loadStart t (options.root.join (plainPart source))
    match loadConfig t options.root with
    | .error _ => return t
    | .ok loaded =>
      for source in loaded.config.targets.flatMap Target.sources do
        t ← loadStart t ((loaded.baseDir options.root).join (plainPart source))
      return t

/-- Reads the files that a plan names. -/
def loadSources (t : FileTree) : Command → IO FileTree
  | .init _ => return t
  | .extract options => do
    match (planExtract t options).result with
    | .error _ => return t
    | .ok plan =>
      let mut t := t
      for job in plan.targets.flatMap PlannedTarget.jobs do
        match t.locate .inspect (plan.base.join ⟨job.file⟩) with
        | .error _ => pure ()
        | .ok names =>
          try t := t.put names (.file (← IO.FS.readBinFile (FileTree.absolute names).text))
          catch _ => pure ()
      return t

/-! ## Storing -/

/-- Stores what has changed at a path. -/
partial def storeChanges (path : Path) (old : Option Node) : Node → IO Unit
  | .file content => do
    match old with
    | some (.file before) => if before != content then IO.FS.writeBinFile path.text content
    | _ => IO.FS.writeBinFile path.text content
  | .link _ => return
  | .folder _ entries => do
    if old.isNone then IO.FS.createDirAll path.text
    for (name, node) in entries do
      storeChanges (path.join ⟨name⟩) (old.bind (·.child? name)) node

/-! ## Running -/

/-- The present time as catalogs show it. -/
def presentDate : IO String := do
  return (← Std.Time.DateTime.now).format "uuuu-MM-dd HH:mmxx"

/-- The tree with nothing but the working directory. -/
def startTree : IO FileTree := do
  let here := (← IO.currentDir).toString
  let empty : FileTree := ⟨.emptyFolder, namesOf here⟩
  return (empty.createFolders ⟨here⟩).1

/-- Whether output is coloured. -/
def wantsColor : IO Bool := do
  return (← (← IO.getStdout).isTty) && (← IO.getEnv "NO_COLOR").isNone

/-- Shows how a run has ended. -/
def showOutcome (outcome : Outcome) : IO UInt32 := do
  let color ← wantsColor
  IO.eprint (outcome.stderr.render color)
  IO.print (outcome.stdout.render color)
  return outcome.status.code.toUInt32

/-- What is shown if the command line itself ends the run. -/
def showUsage : Usage → IO Unit
  | .displayHelp => IO.print (String.join (helpLines.map (· ++ "\n")))
  | .displayVersion => IO.println "potgen 0.1.0"
  | _ => IO.eprintln "error: invalid arguments, see 'potgen --help'"

end PotCatalog

open PotCatalog in
/-- Runs the program. -/
def main (arguments : List String) : IO UInt32 := do
  match readArguments arguments with
  | .error usage =>
    showUsage usage
    return usage.exitCode.toUInt32
  | .ok none =>
    showUsage .displayHelp
    return 0
  | .ok (some command) =>
    let tree ← loadSources (← loadFor (← startTree) command) command
    let outcome := command.run tree (← presentDate)
    storeChanges ⟨"/"⟩ (some tree.root) outcome.tree.root
    showOutcome outcome
