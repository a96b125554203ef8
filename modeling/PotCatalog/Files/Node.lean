/-
  Files, links and directories.

  A `Node` is what a name in a directory stands for.  A directory keeps its
  entries in the order of their names, and `Node.at?`, `Node.put` and
  `Node.remove` look at and change the node that a list of names leads to.
-/
import PotCatalog.Path

namespace PotCatalog

/-- What a name in a directory stands for. -/
inductive Node where
  | file (content : ByteArray)
  | link (target : Path)
  /-- A directory; one that is not open can be neither listed nor entered. -/
  | folder (isOpen : Bool) (entries : List (String × Node))
  deriving Inhabited

/-- The entries of a directory. -/
abbrev Entries := List (String × Node)

namespace Entries

/-- The node of a name. -/
def find? (entries : Entries) (name : String) : Option Node := entries.lookup name

/-- Sets the node of a name and keeps the order of names. -/
def set (name : String) (node : Node) : Entries → Entries
  | [] => [(name, node)]
  | (other, old) :: rest =>
    if name = other then (name, node) :: rest
    else if name < other then (name, node) :: (other, old) :: rest
    else (other, old) :: set name node rest

/-- Drops a name. -/
def drop (name : String) (entries : Entries) : Entries := entries.filter (·.1 ≠ name)

end Entries

namespace Node

/-- A directory without entries. -/
def emptyFolder : Node := folder true []

/-- A file with a text. -/
def ofText (text : String) : Node := file text.toUTF8

/-- Whether a node is a directory. -/
def isFolder : Node → Bool
  | folder _ _ => true
  | _ => false

/-- Whether a node is a file. -/
def isFile : Node → Bool
  | file _ => true
  | _ => false

/-- The node of a name in a directory. -/
def child? : Node → String → Option Node
  | folder _ entries, name => Entries.find? entries name
  | _, _ => none

/-- The node that a list of names leads to. -/
def at? : Node → List String → Option Node
  | node, [] => some node
  | node, name :: names => (node.child? name).bind (·.at? names)

/-- Changes the node that a list of names leads to, or the node of a free name
    in a directory that they lead to. -/
def put (node : Node) (names : List String) (new : Node) : Node :=
  match names, node with
  | [], _ => new
  | name :: names, folder isOpen entries =>
    match Entries.find? entries name with
    | some old => folder isOpen (Entries.set name (old.put names new) entries)
    | none =>
      if names = [] then folder isOpen (Entries.set name new entries) else folder isOpen entries
  | _ :: _, other => other

/-- Removes the node that a list of names leads to. -/
def remove (node : Node) (names : List String) : Node :=
  match names, node with
  | [name], folder isOpen entries => folder isOpen (Entries.drop name entries)
  | name :: names, folder isOpen entries =>
    match Entries.find? entries name with
    | some old => folder isOpen (Entries.set name (old.remove names) entries)
    | none => folder isOpen entries
  | _, other => other

mutual

/-- The number of directories inside one another. -/
def height : Node → Nat
  | file _ | link _ => 0
  | folder _ entries => entriesHeight entries + 1

/-- The number of directories inside one another among entries. -/
def entriesHeight : List (String × Node) → Nat
  | [] => 0
  | (_, node) :: rest => max node.height (entriesHeight rest)

end

/-- Makes a directory one that can be neither listed nor entered. -/
def close : Node → Node
  | folder _ entries => folder false entries
  | node => node

end Node

end PotCatalog
