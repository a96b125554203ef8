/-
  What a tree of files looks like without the contents of its files.

  The outline of a tree keeps all names, kinds and links and empties every
  file.  Following paths, listing and walking directories see the outline only:
  each of them answers on the outline of a tree what it answers on the tree,
  itself emptied where the answer holds a node.
-/
import PotCatalog.Files.Walk
import PotCatalog.Proofs.Scan.Following

namespace PotCatalog

/-! ## Outlines -/

mutual

/-- A node with all its files emptied. -/
def Node.outline : Node → Node
  | .file _ => .file .empty
  | .link target => .link target
  | .folder isOpen entries => .folder isOpen (entriesOutline entries)

/-- Entries with all their files emptied. -/
def entriesOutline : List (String × Node) → List (String × Node)
  | [] => []
  | (name, node) :: rest => (name, node.outline) :: entriesOutline rest

end

/-- A tree with all its files emptied. -/
def FileTree.outline (t : FileTree) : FileTree := { t with root := t.root.outline }

theorem Entries.find?_outline (entries : Entries) (name : String) :
    Entries.find? (entriesOutline entries) name = (entries.find? name).map Node.outline := by
  induction entries with
  | nil => rfl
  | cons entry rest ih =>
    obtain ⟨other, node⟩ := entry
    rw [entriesOutline, Entries.find?, Entries.find?, List.lookup_cons, List.lookup_cons]
    cases name == other with
    | true => rfl
    | false => exact ih

theorem Node.child?_outline (node : Node) (name : String) :
    node.outline.child? name = (node.child? name).map Node.outline := by
  cases node with
  | file | link => rfl
  | folder isOpen entries => exact Entries.find?_outline entries name

theorem Node.at?_outline (node : Node) (names : List String) :
    node.outline.at? names = (node.at? names).map Node.outline := by
  induction names generalizing node with
  | nil => rfl
  | cons name names ih =>
    rw [Node.at?, Node.at?, Node.child?_outline]
    cases node.child? name with
    | none => rfl
    | some child => exact ih child

theorem Node.isFolder_outline (node : Node) : node.outline.isFolder = node.isFolder := by
  cases node <;> rfl

theorem Node.isFile_outline (node : Node) : node.outline.isFile = node.isFile := by
  cases node <;> rfl

/-! ## Following -/

theorem follow_outline (root : Node) (purpose : Purpose) (links : Nat) (here : List String)
    (moves : List Move) :
    FileTree.follow root.outline purpose links here moves =
      FileTree.follow root purpose links here moves := by
  fun_induction FileTree.follow root purpose links here moves with
  | case1 => rw [FileTree.follow]
  | case13 here rest isOpen entries hhere name hslash target hfind hentry hopen =>
    obtain rfl : isOpen = true := by simpa using hopen
    rw [FileTree.follow, Node.at?_outline, hhere]
    simp [Node.outline, Entries.find?_outline, hfind, hentry, hslash]
  | case14 here rest isOpen entries hhere name hslash target hfind hentry links hopen ih =>
    obtain rfl : isOpen = true := by simpa using hopen
    rw [FileTree.follow, Node.at?_outline, hhere]
    simpa [Node.outline, Entries.find?_outline, hfind, hentry, hslash] using ih
  | case15 links here rest isOpen entries hhere name hslash node hnode hfind hopen ih =>
    obtain rfl : isOpen = true := by simpa using hopen
    rw [FileTree.follow, Node.at?_outline, hhere]
    cases node with
    | link target => exact absurd rfl (hnode target)
    | file | folder => simp [Node.outline, Entries.find?_outline, hfind, hslash, ih]
  | _ =>
    rw [FileTree.follow, Node.at?_outline]
    simp_all [Node.outline, Entries.find?_outline]

namespace FileTree

variable (t : FileTree)

theorem locate_outline (purpose : Purpose) (p : Path) :
    t.outline.locate purpose p = t.locate purpose p := by
  simp only [locate, outline, follow_outline]

theorem resolve_outline (p : Path) : t.outline.resolve p = (t.resolve p).map Node.outline := by
  simp only [resolve, locate_outline]
  cases t.locate .inspect p with
  | error e => rfl
  | ok names =>
    have hat : t.outline.root.at? names = (t.root.at? names).map Node.outline :=
      Node.at?_outline ..
    simp only [bind, Except.bind, hat]
    cases t.root.at? names with
    | none => rfl
    | some node => rfl

theorem pathExists_outline (p : Path) : t.outline.pathExists p = t.pathExists p := by
  rw [pathExists, pathExists, resolve_outline]
  cases t.resolve p <;> rfl

theorem isFolder_outline (p : Path) : t.outline.isFolder p = t.isFolder p := by
  rw [isFolder, isFolder, resolve_outline]
  cases t.resolve p with
  | error e => rfl
  | ok node => exact node.isFolder_outline

theorem isFile_outline (p : Path) : t.outline.isFile p = t.isFile p := by
  rw [isFile, isFile, resolve_outline]
  cases t.resolve p with
  | error e => rfl
  | ok node => exact node.isFile_outline

theorem canonical_outline (p : Path) : t.outline.canonical p = t.canonical p := by
  simp only [canonical, locate_outline]
  refine bind_congr fun names => ?_
  rw [outline, Node.at?_outline, Option.isSome_map]

theorem hasEntry_outline (p : Path) : t.outline.hasEntry p = t.hasEntry p := by
  rw [hasEntry, hasEntry, locate_outline]
  cases t.locate .entry p with
  | error e => rfl
  | ok names =>
    show (t.root.outline.at? names).isSome = _
    rw [Node.at?_outline, Option.isSome_map]

theorem list_outline (p : Path) : t.outline.list p = (t.list p).map entriesOutline := by
  simp only [list, resolve_outline]
  cases t.resolve p with
  | error e => rfl
  | ok node =>
    match node with
    | .file _ | .link _ => rfl
    | .folder true _ | .folder false _ => rfl

end FileTree

/-! ## Walking -/

mutual

theorem Node.walk_outline (path : Path) (node : Node) : node.outline.walk path = node.walk path := by
  match node with
  | .file _ | .link _ => rfl
  | .folder false _ => simp only [Node.outline, Node.walk]
  | .folder true entries => simp only [Node.outline, Node.walk, walkEntries_outline path entries]

theorem walkEntries_outline (folder : Path) (entries : List (String × Node)) :
    walkEntries folder (entriesOutline entries) = walkEntries folder entries := by
  match entries with
  | [] => rfl
  | (name, node) :: rest =>
    simp only [entriesOutline, walkEntries, Node.walk_outline _ node, walkEntries_outline folder rest]

end

theorem FileTree.walk_outline (t : FileTree) (start : Path) : t.outline.walk start = t.walk start := by
  rw [walk, walk, resolve_outline]
  cases t.resolve start with
  | error e => rfl
  | ok node => exact node.walk_outline start

mutual

theorem Node.height_outline (node : Node) : node.outline.height = node.height := by
  match node with
  | .file _ | .link _ => rfl
  | .folder _ entries => simp only [Node.outline, Node.height, entriesHeight_outline entries]

theorem Node.entriesHeight_outline (entries : List (String × Node)) :
    Node.entriesHeight (entriesOutline entries) = Node.entriesHeight entries := by
  match entries with
  | [] => rfl
  | (_, node) :: rest =>
    simp only [entriesOutline, Node.entriesHeight, Node.height_outline node,
      Node.entriesHeight_outline rest]

end

end PotCatalog
