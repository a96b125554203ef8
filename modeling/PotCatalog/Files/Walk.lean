/-
  All files below a directory.

  A walk visits the entries of a directory in the order of their names, each
  directory where its name stands.  Links are passed over.
-/
import PotCatalog.Files.Tree

namespace PotCatalog

/-- What a walk meets. -/
inductive Visit where
  | file (path : Path)
  /-- A directory that cannot be listed. -/
  | blocked (path : Path)
  deriving DecidableEq, Repr

mutual

/-- What a walk meets at a node. -/
def Node.walk (path : Path) : Node → List Visit
  | .file _ => [.file path]
  | .link _ => []
  | .folder false _ => [.blocked path]
  | .folder true entries => walkEntries path entries

/-- What a walk meets at the entries of a directory. -/
def walkEntries (folder : Path) : List (String × Node) → List Visit
  | [] => []
  | (name, node) :: rest => node.walk (folder.join ⟨name⟩) ++ walkEntries folder rest

end

/-- What a walk from a path meets; a path that leads nowhere starts no walk. -/
def FileTree.walk (t : FileTree) (start : Path) : List Visit :=
  match t.resolve start with
  | .ok node => node.walk start
  | .error _ => []

end PotCatalog
