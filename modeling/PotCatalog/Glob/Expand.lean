/-
  The paths that a pattern stands for.

  A pattern is cut into one pattern for each component.  Components without
  wildcards need only exist; the others are compared with the names in a
  directory, in the order of names and depth first.  `**` descends into every
  directory, links to directories included.
-/
import PotCatalog.Files.Tree
import PotCatalog.Glob.Pattern

namespace PotCatalog.Glob

/-- A pattern for paths, cut into components. -/
structure PathPattern where
  start : Path
  parts : List Pattern
  /-- Whether only directories are wanted: the pattern ends in a slash. -/
  foldersOnly : Bool
  deriving Repr

/-- Reads a pattern for paths.  The whole is checked before its components. -/
def PathPattern.parse (text : String) : Except Fault PathPattern := do
  let _ ← Pattern.parse text
  let path : Path := ⟨text⟩
  let body := if path.isAbsolute then text.toList.drop 1 else text.toList
  let parts := splitSlash body
  let parts := if parts.getLast? == some [] then parts.dropLast else parts
  return { start := if path.isAbsolute then ⟨"/"⟩ else ⟨"."⟩
           parts := ← parts.mapM (readTokens 0 true)
           foldersOnly := path.endsInSlash }

/-- What an expansion meets. -/
inductive Hit where
  | path (path : Path)
  /-- A directory that cannot be listed. -/
  | unreadable (folder : Path) (error : SystemError)
  deriving DecidableEq, Repr

/-- The path of a name in a directory; the working directory is not written. -/
def within (folder : Path) (name : String) : Path :=
  if folder.components = [.current] then ⟨name⟩ else folder.join ⟨name⟩

/-- The two names that every directory has without listing them. -/
def dotNames : List String := ["..", "."]

section
variable (t : FileTree) (foldersOnly : Bool) (deeper : List Pattern → Path → List Hit)

/-- A path that has passed all patterns but `rest`. -/
def advance (rest : List Pattern) (path : Path) : List Hit :=
  match rest with
  | [] => if !foldersOnly || t.isFolder path then [.path path] else []
  | _ => deeper rest path

/-- An entry of a directory compared with patterns that are not recursive at
    their start. -/
def compareName (patterns : List Pattern) (path : Path) (name : String) : List Hit :=
  match patterns with
  | [] => []
  | pattern :: rest =>
    if pattern.isMatch name then advance t foldersOnly deeper rest path else []

/-- An entry of a directory compared with patterns.  A recursive pattern also
    goes on below the entry, behind what the entry itself yields. -/
def compareEntry (patterns : List Pattern) (folder : Path) (name : String) : List Hit :=
  let path := within folder name
  match patterns with
  | [] => []
  | pattern :: rest =>
    if pattern.isRecursive then
      let rest := rest.dropWhile Pattern.isRecursive
      if t.isFolder path then
        (if rest.isEmpty then [.path path] else compareName t foldersOnly deeper rest path name) ++
          deeper (pattern :: rest) path
      else compareName t foldersOnly deeper rest path name
    else compareName t foldersOnly deeper patterns path name

/-- What patterns yield in a directory: first the two names that are not
    listed, if the pattern starts with a dot and takes them, then its
    entries. -/
def expandFolder (pattern : Pattern) (rest : List Pattern) (folder : Path) : List Hit :=
  if !t.isFolder folder then []
  else match t.list folder with
    | .error e => [.unreadable folder e]
    | .ok entries =>
      let dots := if pattern.head? = some (.literal '.') then dotNames.filter pattern.isMatch else []
      dots.flatMap (fun name => advance t foldersOnly deeper rest (folder.join ⟨name⟩)) ++
        entries.flatMap fun (name, _) => compareEntry t foldersOnly deeper (pattern :: rest) folder name

/-- What a component without wildcards yields.  The two names that every
    directory has need a directory, all others an entry. -/
def expandLiteral (name : String) (rest : List Pattern) (folder : Path) : List Hit :=
  let path := within folder name
  let found := if name ∈ dotNames then t.isFolder folder else t.hasEntry path
  if found then advance t foldersOnly deeper rest path else []

end

/-- What patterns yield from a path, with at most `fuel` steps down. -/
def expandFrom (t : FileTree) (foldersOnly : Bool) : Nat → List Pattern → Path → List Hit
  | 0, _, _ => []
  | _, [], _ => []
  | fuel + 1, pattern :: rest, path =>
    match pattern.literalText? with
    | some name =>
      expandLiteral t foldersOnly (expandFrom t foldersOnly fuel) (String.ofList name) rest path
    | none => expandFolder t foldersOnly (expandFrom t foldersOnly fuel) pattern rest path

/-- A bound for the steps down: a step for each component, and between any two
    links no more steps than there are directories inside one another. -/
def PathPattern.bound (pattern : PathPattern) (t : FileTree) : Nat :=
  pattern.parts.length + (maxLinks + 1) * (t.root.height + 1) + 1

/-- The paths that a pattern stands for. -/
def PathPattern.expand (pattern : PathPattern) (t : FileTree) : List Hit :=
  expandFrom t pattern.foldersOnly (pattern.bound t) pattern.parts pattern.start

end PotCatalog.Glob
