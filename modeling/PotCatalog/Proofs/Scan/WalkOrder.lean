/-
  The order of a walk.

  In a sorted tree the entries of every directory stand in the order of their
  names.  Then the files that a walk meets are in the order of their steps,
  compared byte by byte (`FileTree.walkedFiles_pairwise`): a directory comes
  before the file `a.html` next to it if it is called `a`, and so do all files
  inside it.  They are exactly the files that lie below the start of the walk
  (`FileTree.mem_walkedFiles_iff`).
-/
import PotCatalog.Proofs.Scan.Walking
import PotCatalog.Proofs.Text.ByteOrder

namespace PotCatalog

/-! ## Sorted trees -/

mutual

/-- Whether the entries of all directories inside a node stand in the order of
    their names. -/
def Node.isSorted : Node → Bool
  | .file _ | .link _ => true
  | .folder _ entries => decide ((entries.map Prod.fst).Pairwise (· < ·)) && entriesSorted entries

/-- Whether entries are sorted inside. -/
def entriesSorted : List (String × Node) → Bool
  | [] => true
  | (_, node) :: rest => node.isSorted && entriesSorted rest

end

theorem entriesSorted_iff (entries : List (String × Node)) :
    entriesSorted entries = true ↔ ∀ e ∈ entries, e.2.isSorted = true := by
  induction entries with
  | nil => simp [entriesSorted]
  | cons e rest ih => rw [entriesSorted, Bool.and_eq_true, ih, List.forall_mem_cons]

theorem Node.isSorted_folder_iff {isOpen : Bool} {entries : List (String × Node)} :
    (Node.folder isOpen entries).isSorted = true ↔
      (entries.map Prod.fst).Pairwise (· < ·) ∧ ∀ e ∈ entries, e.2.isSorted = true := by
  rw [Node.isSorted, Bool.and_eq_true, decide_eq_true_eq, entriesSorted_iff]

theorem Node.isSorted_of_at? {root node : Node} {names : List String}
    (hroot : root.isSorted = true) (h : root.at? names = some node) : node.isSorted = true := by
  induction names generalizing root with
  | nil => rwa [← Option.some.inj h]
  | cons name names ih =>
    obtain ⟨child, hchild, hat⟩ := Option.bind_eq_some_iff.1 h
    cases root with
    | file | link => simp [Node.child?] at hchild
    | folder isOpen entries =>
      exact ih ((Node.isSorted_folder_iff.1 hroot).2 _ (Entries.mem_of_find? hchild)) hat

/-! ## The files of a walk -/

/-- The file that a walk visits. -/
def Visit.file? : Visit → Option Path
  | .file p => some p
  | .blocked _ => none

mutual

/-- The places of the files below a node, through open directories. -/
def Node.filePlaces : Node → List (List String)
  | .file _ => [[]]
  | .link _ | .folder false _ => []
  | .folder true entries => entriesPlaces entries

/-- The places of the files below entries. -/
def entriesPlaces : List (String × Node) → List (List String)
  | [] => []
  | (name, node) :: rest => node.filePlaces.map (name :: ·) ++ entriesPlaces rest

end

theorem entriesPlaces_eq_flatMap (entries : List (String × Node)) :
    entriesPlaces entries = entries.flatMap fun e => e.2.filePlaces.map (e.1 :: ·) := by
  induction entries with
  | nil => rfl
  | cons e rest ih => rw [entriesPlaces, ih, List.flatMap_cons]

mutual

theorem Node.filterMap_walk (path : Path) (node : Node) :
    (node.walk path).filterMap Visit.file? = node.filePlaces.map path.descend := by
  match node with
  | .file _ => rfl
  | .link _ => rfl
  | .folder false _ => rfl
  | .folder true entries =>
    rw [Node.walk, Node.filePlaces]
    exact filterMap_walkEntries path entries

theorem filterMap_walkEntries (folder : Path) (entries : List (String × Node)) :
    (walkEntries folder entries).filterMap Visit.file? =
      (entriesPlaces entries).map folder.descend := by
  match entries with
  | [] => rfl
  | (name, node) :: rest =>
    rw [walkEntries, entriesPlaces, List.filterMap_append, List.map_append, List.map_map,
      Node.filterMap_walk, filterMap_walkEntries]
    rfl

end

/-- The places of the files below a node are those that lead to a file. -/
theorem Node.mem_filePlaces_iff (node : Node) (hnode : node.isProper = true) {names : List String} :
    names ∈ node.filePlaces ↔ (node.fileAt? names).isSome := by
  induction hsize : sizeOf node using Nat.strongRecOn generalizing node names with
  | ind size ih =>
    cases node with
    | file => cases names <;> simp [Node.filePlaces, Node.fileAt?]
    | link => simp [Node.filePlaces, Node.fileAt?]
    | folder isOpen entries =>
      cases isOpen with
      | false => simp [Node.filePlaces, Node.fileAt?]
      | true =>
        obtain ⟨hnodup, hentries⟩ := Node.isProper_folder_iff.1 hnode
        have hchild {name : String} {child : Node} (hmem : (name, child) ∈ entries)
            {rest : List String} : rest ∈ child.filePlaces ↔ (child.fileAt? rest).isSome := by
          have hlt := List.sizeOf_lt_of_mem hmem
          simp only [Prod.mk.sizeOf_spec, Node.folder.sizeOf_spec] at hlt hsize
          exact ih (sizeOf child) (by omega) child (hentries name child hmem).2 rfl
        rw [Node.filePlaces, entriesPlaces_eq_flatMap, List.mem_flatMap]
        constructor
        · rintro ⟨⟨name, child⟩, hmem, hnames⟩
          obtain ⟨rest, hrest, rfl⟩ := List.mem_map.1 hnames
          rw [Node.fileAt?, Entries.find?_of_mem hnodup hmem]
          exact (hchild hmem).1 hrest
        · intro h
          cases names with
          | nil => simp [Node.fileAt?] at h
          | cons name rest =>
            rw [Node.fileAt?] at h
            cases hfind : Entries.find? entries name with
            | none => simp [hfind] at h
            | some child =>
              rw [hfind] at h
              have hmem := Entries.mem_of_find? hfind
              exact ⟨(name, child), hmem, List.mem_map.2 ⟨rest, (hchild hmem).2 h, rfl⟩⟩

mutual

theorem Node.filePlaces_pairwise (node : Node) (hnode : node.isSorted = true) :
    node.filePlaces.Pairwise (· < ·) := by
  match node with
  | .file _ => exact List.pairwise_singleton _ _
  | .link _ => exact .nil
  | .folder false _ => exact .nil
  | .folder true entries =>
    obtain ⟨hnames, hentries⟩ := Node.isSorted_folder_iff.1 hnode
    rw [Node.filePlaces]
    exact entriesPlaces_pairwise entries hnames hentries

theorem entriesPlaces_pairwise (entries : List (String × Node))
    (hnames : (entries.map Prod.fst).Pairwise (· < ·))
    (hentries : ∀ e ∈ entries, e.2.isSorted = true) :
    (entriesPlaces entries).Pairwise (· < ·) := by
  match entries with
  | [] => exact .nil
  | (name, node) :: rest =>
    rw [List.map_cons, List.pairwise_cons] at hnames
    rw [entriesPlaces, List.pairwise_append, List.pairwise_map]
    refine ⟨?_, entriesPlaces_pairwise rest hnames.2 fun e he => hentries e (by simp [he]), ?_⟩
    · refine (node.filePlaces_pairwise (hentries (name, node) (List.mem_cons_self ..))).imp fun h => ?_
      exact List.cons_lt_cons_iff.2 (Or.inr ⟨rfl, h⟩)
    · -- all other places start with a greater name
      intro first hfirst second hsecond
      obtain ⟨below, -, rfl⟩ := List.mem_map.1 hfirst
      rw [entriesPlaces_eq_flatMap, List.mem_flatMap] at hsecond
      obtain ⟨⟨other, child⟩, hmem, hother⟩ := hsecond
      obtain ⟨below', -, rfl⟩ := List.mem_map.1 hother
      exact List.cons_lt_cons_iff.2 (Or.inl (hnames.1 other (List.mem_map_of_mem hmem)))

end

/-! ## The order of paths -/

namespace Path

/-- The steps of a path, each as its bytes. -/
def stepBytes (p : Path) : List (List UInt8) := p.steps.map fun c => bytesOf c.text

/-- Whether a path comes before another one: their steps are compared one by
    one, byte by byte. -/
def Precedes (p q : Path) : Prop := p.stepBytes < q.stepBytes

theorem map_bytesOf_lt {names others : List String} (h : names < others) :
    names.map bytesOf < others.map bytesOf := by
  rw [← List.lex_lt] at h
  induction h with
  | nil => exact List.nil_lt_cons _ _
  | rel hlt => exact List.cons_lt_cons_iff.2 (Or.inl (bytesOf_lt_of_lt hlt))
  | cons _ ih => exact List.cons_lt_cons_iff.2 (Or.inr ⟨rfl, ih⟩)

theorem stepBytes_descend {folder : Path} {names : List String}
    (h : ∀ name ∈ names, (Component.name name).IsInner) :
    (folder.descend names).stepBytes = folder.stepBytes ++ names.map bytesOf := by
  rw [stepBytes, steps_descend h, List.map_append, List.map_map]
  rfl

theorem lt_of_append_left_lt {xs ys zs : List (List UInt8)} (h : xs ++ ys < xs ++ zs) : ys < zs := by
  induction xs with
  | nil => exact h
  | cons x xs ih =>
    rcases List.cons_lt_cons_iff.1 h with h | ⟨-, h⟩
    · exact absurd h (List.lt_irrefl x)
    · exact ih h

/-- Names below a base directory are in the order of their paths, if both
    paths lie below the base or neither does. -/
theorem Precedes.displayPath {base p q : Path} (h : p.Precedes q)
    (hbase : base.components <+: p.components ↔ base.components <+: q.components) :
    (Path.mk (displayPath base p)).Precedes ⟨displayPath base q⟩ := by
  obtain ⟨before, rest, hp, hpname, hpbefore⟩ := exists_displayPath_eq base p
  obtain ⟨before', rest', hq, hqname, hqbefore⟩ := exists_displayPath_eq base q
  have hsame : before = before' := by
    rcases hpbefore with ⟨hbelow, rfl⟩ | ⟨hnot, rfl⟩
    · rcases hqbefore with ⟨-, rfl⟩ | ⟨hnot, -⟩
      · rfl
      · exact absurd (hbase.1 hbelow) hnot
    · rcases hqbefore with ⟨hbelow, -⟩ | ⟨-, rfl⟩
      · exact absurd (hbase.2 hbelow) hnot
      · rfl
  subst hsame
  rw [Precedes, stepBytes, stepBytes, hp, hq, List.map_append, List.map_append] at h
  rw [Precedes, stepBytes, stepBytes, steps_displayPath hp hpname, steps_displayPath hq hqname]
  exact lt_of_append_left_lt h

end Path

theorem Node.isInner_of_fileAt? {node : Node} (hnode : node.isProper = true) {names : List String}
    {content : ByteArray} (h : node.fileAt? names = some content) :
    ∀ name ∈ names, (Component.name name).IsInner := by
  induction names generalizing node with
  | nil => simp
  | cons name names ih =>
    match node, h with
    | .folder true entries, h =>
      rw [Node.fileAt?] at h
      cases hfind : Entries.find? entries name with
      | none => simp [hfind] at h
      | some child =>
        rw [hfind] at h
        obtain ⟨hname, hchild⟩ :=
          (Node.isProper_folder_iff.1 hnode).2 name child (Entries.mem_of_find? hfind)
        exact List.forall_mem_cons.2 ⟨hname, ih hchild h⟩

namespace FileTree

variable {t : FileTree} {folder p : Path}

/-- A file lies below a directory: names lead from the directory to it through
    directories that are open, and through no link. -/
def LiesBelow (t : FileTree) (folder p : Path) : Prop :=
  ∃ node names content, t.resolve folder = .ok node ∧ node.fileAt? names = some content ∧
    p = folder.descend names

theorem LiesBelow.starts_below (ht : t.WellFormed) (h : t.LiesBelow folder p) :
    folder.components <+: p.components := by
  obtain ⟨node, names, content, hnode, hfile, rfl⟩ := h
  exact Path.components_prefix_descend
    (Node.isInner_of_fileAt? (ht.isProper_of_resolve hnode) hfile)

/-- The files that a walk meets, in its order. -/
def walkedFiles (t : FileTree) (folder : Path) : List Path :=
  (t.walk folder).filterMap Visit.file?

theorem walkedFiles_of_resolve {node : Node} (h : t.resolve folder = .ok node) :
    t.walkedFiles folder = node.filePlaces.map folder.descend := by
  rw [walkedFiles, walk, h]
  exact node.filterMap_walk folder

/-- **A walk meets the files below its start, and no others.** -/
theorem mem_walkedFiles_iff (ht : t.WellFormed) :
    p ∈ t.walkedFiles folder ↔ t.LiesBelow folder p := by
  constructor
  · intro h
    cases hfolder : t.resolve folder with
    | error e => simp [walkedFiles, walk, hfolder] at h
    | ok node =>
      rw [walkedFiles_of_resolve hfolder] at h
      obtain ⟨names, hnames, rfl⟩ := List.mem_map.1 h
      obtain ⟨content, hcontent⟩ := Option.isSome_iff_exists.1
        ((node.mem_filePlaces_iff (ht.isProper_of_resolve hfolder)).1 hnames)
      exact ⟨node, names, content, hfolder, hcontent, rfl⟩
  · rintro ⟨node, names, content, hfolder, hfile, rfl⟩
    rw [walkedFiles_of_resolve hfolder]
    refine List.mem_map_of_mem ((node.mem_filePlaces_iff (ht.isProper_of_resolve hfolder)).2 ?_)
    rw [hfile]
    rfl

/-- **The files of a walk are in the order of their steps,** byte by byte. -/
theorem walkedFiles_pairwise (ht : t.WellFormed) (hsorted : t.root.isSorted = true) :
    (t.walkedFiles folder).Pairwise Path.Precedes := by
  cases hfolder : t.resolve folder with
  | error e => simp [walkedFiles, walk, hfolder]
  | ok node =>
    obtain ⟨place, -, hat⟩ := resolve_eq_ok_iff.1 hfolder
    have hproper := ht.isProper_of_resolve hfolder
    have hinner : ∀ names ∈ node.filePlaces, ∀ name ∈ names, (Component.name name).IsInner := by
      intro names hnames
      obtain ⟨content, hcontent⟩ := Option.isSome_iff_exists.1
        ((node.mem_filePlaces_iff hproper).1 hnames)
      exact Node.isInner_of_fileAt? hproper hcontent
    rw [walkedFiles_of_resolve hfolder, List.pairwise_map]
    refine (node.filePlaces_pairwise (Node.isSorted_of_at? hsorted hat)).imp_of_mem ?_
    intro names others hnames hothers hlt
    rw [Path.Precedes, Path.stepBytes_descend (hinner names hnames),
      Path.stepBytes_descend (hinner others hothers)]
    exact List.append_left_lt (Path.map_bytesOf_lt hlt)

end FileTree

end PotCatalog
