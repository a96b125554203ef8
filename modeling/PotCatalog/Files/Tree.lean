/-
  A tree of files, and what can be asked of it.

  A `FileTree` is everything below the root, with a working directory.  A path
  leads through it step by step: links are followed, and two dots lead to the
  directory above the one reached.  `FileTree.resolve` says where a path leads
  or why it leads nowhere; reading, listing and writing are built on it.
-/
import PotCatalog.Files.Node

namespace PotCatalog

/-! ## Errors -/

/-- Why the tree refuses something. -/
inductive SystemError where
  | notFound
  | accessDenied
  | alreadyExists
  | notDirectory
  | isDirectory
  | tooManyLinks
  /-- Bytes that are no text. -/
  | notText
  deriving DecidableEq, Repr

/-- The wording of an error. -/
def SystemError.message : SystemError → String
  | notFound => "No such file or directory (os error 2)"
  | accessDenied => "Permission denied (os error 13)"
  | alreadyExists => "File exists (os error 17)"
  | notDirectory => "Not a directory (os error 20)"
  | isDirectory => "Is a directory (os error 21)"
  | tooManyLinks => "Too many levels of symbolic links (os error 40)"
  | notText => "stream did not contain valid UTF-8"

/-! ## Following a path -/

/-- A move of a path through the tree. -/
inductive Move where
  /-- A single dot. -/
  | stay
  | up
  | down (name : String)
  /-- A slash at the end: what was reached has to be a directory. -/
  | slash
  deriving DecidableEq, Repr

/-- The move that a part of a path stands for. -/
def Move.ofPart? (part : List Char) : Option Move :=
  if part.isEmpty then none
  else if part = ['.'] then some .stay
  else if part = ['.', '.'] then some .up
  else some (.down (String.ofList part))

/-- The moves of a path. -/
def Path.moves (p : Path) : List Move :=
  (splitSlash p.text.toList).filterMap Move.ofPart? ++ if p.endsInSlash then [.slash] else []

/-- The number of links that one path may lead through. -/
def maxLinks : Nat := 40

/-- How the last name of a path is treated. -/
inductive Purpose where
  /-- To look at what the path leads to. -/
  | inspect
  /-- To look at the entry itself, even if it is a link. -/
  | entry
  /-- To write a file there. -/
  | write
  deriving DecidableEq, Repr

/-- A tree of files with a working directory, given by the names from the
    root. -/
structure FileTree where
  root : Node
  workingDir : List String
  deriving Inhabited

namespace FileTree

/-- Follows moves from a directory, given by the names from the root, through
    at most `links` links.  The result is where they lead; only the last name
    may be free. -/
def follow (root : Node) (purpose : Purpose) (links : Nat) (here : List String)
    (moves : List Move) : Except SystemError (List String) :=
  match moves with
  | [] => .ok here
  | move :: rest =>
    match root.at? here with
    | none => .error .notFound
    | some (.file _) | some (.link _) => .error .notDirectory
    | some (.folder isOpen entries) =>
      if !isOpen && move ≠ .slash then .error .accessDenied
      else match move with
        | .stay | .slash => follow root purpose links here rest
        | .up => follow root purpose links here.dropLast rest
        | .down name =>
          if purpose = .write && rest = [.slash] then .error .isDirectory
          else match Entries.find? entries name with
            | none =>
              if rest = [] || rest = [.slash] then .ok (here ++ [name]) else .error .notFound
            | some (.link target) =>
              if rest = [] && purpose = .entry then .ok (here ++ [name])
              else match links with
                | 0 => .error .tooManyLinks
                | links + 1 =>
                  follow root purpose links (if target.isAbsolute then [] else here)
                    (target.moves ++ rest)
            | some _ => follow root purpose links (here ++ [name]) rest
termination_by (links, moves.length)

/-- Where a path leads: the names from the root. -/
def locate (t : FileTree) (purpose : Purpose) (p : Path) : Except SystemError (List String) :=
  if p.text.isEmpty then .error .notFound
  else follow t.root purpose maxLinks (if p.isAbsolute then [] else t.workingDir) p.moves

/-- The node that a path leads to. -/
def resolve (t : FileTree) (p : Path) : Except SystemError Node := do
  match t.root.at? (← t.locate .inspect p) with
  | some node => return node
  | none => throw .notFound

/-- The absolute path of a list of names from the root. -/
def absolute (names : List String) : Path := ⟨"/" ++ "/".intercalate names⟩

/-- The absolute path, without dots and links, of what a path leads to. -/
def canonical (t : FileTree) (p : Path) : Except SystemError Path := do
  let names ← t.locate .inspect p
  if (t.root.at? names).isSome then return absolute names else throw .notFound

/-! ## Looking -/

/-- Whether a path leads to something. -/
def pathExists (t : FileTree) (p : Path) : Bool :=
  match t.resolve p with
  | .ok _ => true
  | .error _ => false

/-- Whether a path leads to a directory. -/
def isFolder (t : FileTree) (p : Path) : Bool :=
  match t.resolve p with
  | .ok node => node.isFolder
  | .error _ => false

/-- Whether a path leads to a file. -/
def isFile (t : FileTree) (p : Path) : Bool :=
  match t.resolve p with
  | .ok node => node.isFile
  | .error _ => false

/-- Whether a path names an entry of a directory, be it a link that leads
    nowhere. -/
def hasEntry (t : FileTree) (p : Path) : Bool :=
  match t.locate .entry p with
  | .ok names => (t.root.at? names).isSome
  | .error _ => false

/-- The entries of the directory that a path leads to, in the order of their
    names. -/
def list (t : FileTree) (p : Path) : Except SystemError Entries := do
  match ← t.resolve p with
  | .folder true entries => return entries
  | .folder false _ => throw .accessDenied
  | _ => throw .notDirectory

/-- The text of the file that a path leads to. -/
def read (t : FileTree) (p : Path) : Except SystemError String := do
  match ← t.resolve p with
  | .file content =>
    match String.fromUTF8? content with
    | some text => return text
    | none => throw .notText
  | _ => throw .isDirectory

/-! ## Changing -/

/-- The tree with another node at a place. -/
def put (t : FileTree) (names : List String) (node : Node) : FileTree :=
  { t with root := t.root.put names node }

/-- Writes a file.  A link is followed, and what the file held before is
    gone. -/
def write (t : FileTree) (p : Path) (content : ByteArray) : Except SystemError FileTree := do
  let names ← t.locate .write p
  match t.root.at? names with
  | some (.folder _ _) => throw .isDirectory
  | _ => return t.put names (.file content)

/-- Makes a node under a free name. -/
def create (t : FileTree) (p : Path) (node : Node) : Except SystemError FileTree := do
  let names ← t.locate .entry p
  match t.root.at? names with
  | some _ => throw .alreadyExists
  | none => return t.put names node

/-- Makes the first of the given directories.  If the directory above it is
    missing, the others are made first: each is the one above its neighbour. -/
def makeFolders (t : FileTree) : List Path → FileTree × Except SystemError Unit
  | [] => (t, .ok ())
  | p :: above =>
    match t.create p .emptyFolder with
    | .ok made => (made, .ok ())
    | .error .notFound =>
      match makeFolders t above with
      | (t', .error e) => (t', .error e)
      | (t', .ok ()) =>
        match t'.create p .emptyFolder with
        | .ok made => (made, .ok ())
        | .error e => (t', if t'.isFolder p then .ok () else .error e)
    | .error e => (t, if t.isFolder p then .ok () else .error e)

/-- Makes a directory and all directories above it that are missing.  What was
    made before an error stays. -/
def createFolders (t : FileTree) (p : Path) : FileTree × Except SystemError Unit :=
  t.makeFolders (p :: p.ancestors.filter (!·.text.isEmpty))

end FileTree

end PotCatalog
