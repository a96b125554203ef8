/-
  Walks through a tree of files.

  A tree is well-formed if the names of its entries can be parts of a path and
  differ within a directory.  Below a directory of such a tree, a walk meets
  only files that stand where their path says (`FileTree.walk_spec`).
-/
import PotCatalog.Files.Walk
import PotCatalog.Proofs.Scan.Following

namespace PotCatalog

/-! ## Well-formed trees -/

instance : DecidablePred Component.IsInner := fun c =>
  inferInstanceAs (Decidable (Component.ofPart? c.text.toList = some c ∧ '/' ∉ c.text.toList))

mutual

/-- Whether the entries of all directories inside a node have different names,
    and names that can be parts of a path. -/
def Node.isProper : Node → Bool
  | .file _ | .link _ => true
  | .folder _ entries => decide (entries.map Prod.fst).Nodup && entriesProper entries

/-- Whether entries are proper. -/
def entriesProper : List (String × Node) → Bool
  | [] => true
  | (name, node) :: rest =>
    decide (Component.name name).IsInner && node.isProper && entriesProper rest

end

/-- A tree with proper entries whose root and working directory are
    directories. -/
structure FileTree.WellFormed (t : FileTree) : Prop where
  isProper : t.root.isProper = true
  root : t.root.isFolder = true
  workingDir : ∃ node, t.root.at? t.workingDir = some node ∧ node.isFolder = true

theorem entriesProper_iff (entries : List (String × Node)) :
    entriesProper entries = true ↔
      ∀ name node, (name, node) ∈ entries → (Component.name name).IsInner ∧ node.isProper = true := by
  induction entries with
  | nil => simp [entriesProper]
  | cons entry rest ih =>
    obtain ⟨name, node⟩ := entry
    simp only [entriesProper, Bool.and_eq_true, decide_eq_true_eq, ih, List.mem_cons,
      Prod.mk.injEq]
    constructor
    · rintro ⟨⟨hname, hnode⟩, hrest⟩ other child (⟨rfl, rfl⟩ | hmem)
      · exact ⟨hname, hnode⟩
      · exact hrest other child hmem
    · intro h
      exact ⟨h name node (Or.inl ⟨rfl, rfl⟩), fun other child hmem => h other child (Or.inr hmem)⟩

theorem Node.isProper_folder_iff {isOpen : Bool} {entries : List (String × Node)} :
    (Node.folder isOpen entries).isProper = true ↔
      (entries.map Prod.fst).Nodup ∧
        ∀ name node, (name, node) ∈ entries →
          (Component.name name).IsInner ∧ node.isProper = true := by
  rw [Node.isProper, Bool.and_eq_true, decide_eq_true_eq, entriesProper_iff]

theorem Entries.mem_of_find? {entries : Entries} {name : String} {node : Node}
    (h : entries.find? name = some node) : (name, node) ∈ entries := by
  obtain ⟨before, after, rfl, -⟩ := List.lookup_eq_some_iff.1 h
  exact List.mem_append_right _ (List.mem_cons_self ..)

theorem Entries.find?_of_mem {entries : Entries} {name : String} {node : Node}
    (hnodup : (entries.map Prod.fst).Nodup) (h : (name, node) ∈ entries) :
    entries.find? name = some node := by
  obtain ⟨before, after, rfl⟩ := List.append_of_mem h
  refine List.lookup_eq_some_iff.2 ⟨before, after, rfl, ?_⟩
  intro other hother
  have hne : other.1 ≠ name := by
    intro heq
    rw [List.map_append, List.nodup_append] at hnodup
    exact hnodup.2.2 name (heq ▸ List.mem_map_of_mem hother) name (by simp) rfl
  simpa using Ne.symm hne

theorem Node.isProper_of_at? {root node : Node} {names : List String} (hroot : root.isProper = true)
    (h : root.at? names = some node) : node.isProper = true := by
  induction names generalizing root with
  | nil => rwa [← Option.some.inj h]
  | cons name names ih =>
    obtain ⟨child, hchild, hat⟩ := Option.bind_eq_some_iff.1 h
    cases root with
    | file | link => simp [Node.child?] at hchild
    | folder isOpen entries =>
      have hmem := Entries.mem_of_find? hchild
      exact ih ((Node.isProper_folder_iff.1 hroot).2 name child hmem).2 hat

theorem FileTree.WellFormed.isInner_of_list {t : FileTree} (ht : t.WellFormed) {folder : Path}
    {entries : Entries} (hlist : t.list folder = .ok entries) {name : String} {node : Node}
    (hmem : (name, node) ∈ entries) : (Component.name name).IsInner := by
  obtain ⟨names, isOpen, hat⟩ : ∃ names isOpen, t.root.at? names = some (.folder isOpen entries) := by
    obtain ⟨found, hfound, hlist⟩ := bind_eq_ok.1 hlist
    obtain ⟨names, -, hat⟩ := FileTree.resolve_eq_ok_iff.1 hfound
    match found, hlist with
    | .folder true entries, rfl => exact ⟨names, true, hat⟩
  exact ((Node.isProper_folder_iff.1 (Node.isProper_of_at? ht.isProper hat)).2 name node hmem).1

theorem FileTree.WellFormed.isProper_of_resolve {t : FileTree} (ht : t.WellFormed) {p : Path}
    {node : Node} (h : t.resolve p = .ok node) : node.isProper = true := by
  obtain ⟨names, -, hat⟩ := FileTree.resolve_eq_ok_iff.1 h
  exact Node.isProper_of_at? ht.isProper hat

theorem FileTree.WellFormed.at?_ne_link {t : FileTree} (ht : t.WellFormed) {p : Path}
    {names : List String} (h : t.locate .inspect p = .ok names) (target : Path) :
    t.root.at? names ≠ some (.link target) := by
  refine (FileTree.locate_eq_ok_iff.1 h).2.at?_ne_link ht.root ?_ target
  intro other hother
  split at hother
  · have hroot := ht.root
    rw [Option.some.inj hother] at hroot
    simp [Node.isFolder] at hroot
  · obtain ⟨node, hnode, hfolder⟩ := ht.workingDir
    rw [hother] at hnode
    cases hnode
    simp [Node.isFolder] at hfolder

/-! ## What a walk meets -/

/-- The file that names lead to through open directories. -/
def Node.fileAt? : Node → List String → Option ByteArray
  | .file content, [] => some content
  | .folder true entries, name :: names =>
    match Entries.find? entries name with
    | some node => node.fileAt? names
    | none => none
  | _, _ => none

/-- The path of a list of names below a directory. -/
def Path.descend (folder : Path) (names : List String) : Path :=
  names.foldl (fun d name => d.join ⟨name⟩) folder

theorem walkEntries_eq_flatMap (folder : Path) (entries : List (String × Node)) :
    walkEntries folder entries = entries.flatMap fun e => e.2.walk (folder.join ⟨e.1⟩) := by
  induction entries with
  | nil => rfl
  | cons e rest ih => rw [walkEntries, ih, List.flatMap_cons]

theorem Node.mem_walk (node : Node) {path p : Path} (hnode : node.isProper = true)
    (h : .file p ∈ node.walk path) :
    ∃ names content, node.fileAt? names = some content ∧ p = path.descend names ∧
      ∀ name ∈ names, (Component.name name).IsInner := by
  match node with
  | .file content =>
    simp only [Node.walk, List.mem_singleton, Visit.file.injEq] at h
    exact ⟨[], content, rfl, h, by simp⟩
  | .link _ => simp [Node.walk] at h
  | .folder false _ => simp [Node.walk] at h
  | .folder true entries =>
    obtain ⟨hnodup, hentries⟩ := Node.isProper_folder_iff.1 hnode
    rw [Node.walk, walkEntries_eq_flatMap, List.mem_flatMap] at h
    obtain ⟨⟨name, child⟩, hmem, hp⟩ := h
    obtain ⟨hname, hchild⟩ := hentries name child hmem
    obtain ⟨names, content, hfile, rfl, hnames⟩ := child.mem_walk hchild hp
    refine ⟨name :: names, content, ?_, rfl, ?_⟩
    · rw [Node.fileAt?, Entries.find?_of_mem hnodup hmem]
      exact hfile
    · simpa [hname] using hnames
termination_by sizeOf node
decreasing_by
  have hlt := List.sizeOf_lt_of_mem hmem
  simp only [Prod.mk.sizeOf_spec, Node.folder.sizeOf_spec] at hlt ⊢
  omega

/-! ## Where the files of a walk are -/

section
variable {name : String} (h : (Component.name name).IsInner)
include h

theorem Component.IsInner.splitSlash_eq : splitSlash name.toList = [name.toList] :=
  splitSlash_of_notMem h.2

theorem Component.IsInner.isAbsolute_eq : (Path.mk name).isAbsolute = false :=
  Path.isAbsolute_of_slash_notMem h.2

theorem Component.IsInner.steps_eq : (Path.mk name).steps = [.name name] := by
  have hslash : '/' ∉ name.toList := h.2
  have hpart : Component.ofPart? name.toList = some (.name name) := h.1
  rw [Path.steps_of_slash_notMem hslash, hpart]
  rfl

theorem Component.IsInner.endsInStep : (Path.mk name).EndsInStep := by
  refine ⟨[], name.toList, h.splitSlash_eq, ?_⟩
  have hpart : Component.ofPart? name.toList = some (.name name) := h.1
  rw [Bool.eq_false_iff]
  intro hidle
  simp [Component.ofPart?, hidle] at hpart

end

namespace Path

variable {folder : Path} {names : List String} (h : ∀ name ∈ names, (Component.name name).IsInner)
include h

theorem components_prefix_descend : folder.components <+: (folder.descend names).components := by
  induction names generalizing folder with
  | nil => exact List.prefix_rfl
  | cons name names ih =>
    have hrel := (h name (List.mem_cons_self ..)).isAbsolute_eq
    exact (components_prefix_join hrel).trans (ih fun n hn => h n (List.mem_cons_of_mem _ hn))

theorem steps_descend : (folder.descend names).steps = folder.steps ++ names.map .name := by
  induction names generalizing folder with
  | nil => simp [descend]
  | cons name names ih =>
    have hname := h name (List.mem_cons_self ..)
    have hrest : ((folder.join ⟨name⟩).descend names).steps =
        (folder.join ⟨name⟩).steps ++ names.map .name :=
      ih fun n hn => h n (List.mem_cons_of_mem _ hn)
    rw [steps_join hname.isAbsolute_eq, hname.steps_eq, List.append_assoc] at hrest
    exact hrest

theorem endsInStep_descend (hne : names ≠ []) : (folder.descend names).EndsInStep := by
  obtain ⟨before, name, rfl⟩ := (List.eq_nil_or_concat names).resolve_left hne
  rw [List.concat_eq_append] at h ⊢
  rw [descend, List.foldl_append]
  exact (h name (by simp)).endsInStep.join

end Path

namespace FileTree

variable {t : FileTree}

theorem Reaches.descend {steps : List Component} {here names : List String} {node : Node}
    {content : ByteArray} (h : t.Reaches steps here) (hnode : t.root.at? here = some node)
    (hfile : node.fileAt? names = some content) :
    t.Reaches (steps ++ names.map .name) (here ++ names) ∧
      t.root.at? (here ++ names) = some (.file content) := by
  induction names generalizing steps here node with
  | nil =>
    cases node with
    | file => simp_all [Node.fileAt?]
    | link | folder => simp [Node.fileAt?] at hfile
  | cons name names ih =>
    match node, hfile with
    | .folder true entries, hfile =>
      rw [Node.fileAt?] at hfile
      cases hfind : Entries.find? entries name with
      | none => simp [hfind] at hfile
      | some child =>
        rw [hfind] at hfile
        have hchild : ∀ target, child ≠ .link target := by
          rintro target rfl
          simp [Node.fileAt?] at hfile
        have hat : t.root.at? (here ++ [name]) = some child := by
          simp [Node.at?_append, hnode, Node.at?, Node.child?, hfind]
        have hrest := ih (h.down hnode hfind hchild) hat hfile
        simpa using hrest

/-- **A walk meets only files of the tree, below the directory it starts
    from.** -/
theorem walk_spec {start p : Path} (ht : t.WellFormed) (hstart : t.isFolder start = true)
    (h : .file p ∈ t.walk start) :
    t.isFile p = true ∧ start.components <+: p.components ∧ p.isAbsolute = start.isAbsolute := by
  obtain ⟨here, isOpen, entries, hlocate, hat⟩ := isFolder_iff.1 hstart
  rw [walk, resolve_eq_ok_iff.2 ⟨here, hlocate, hat⟩] at h
  obtain ⟨names, content, hfile, rfl, hnames⟩ :=
    Node.mem_walk _ (Node.isProper_of_at? ht.isProper hat) h
  have hne : names ≠ [] := by
    rintro rfl
    simp [Node.fileAt?] at hfile
  obtain ⟨hreach, hat'⟩ := (reaches_of_locate hlocate).descend hat hfile
  rw [← Path.steps_descend hnames] at hreach
  refine ⟨isFile_iff.2 ⟨_, content, hreach.locate (Path.endsInStep_descend hnames hne), hat'⟩,
    Path.components_prefix_descend hnames, ?_⟩
  rw [Bool.eq_iff_iff, Path.isAbsolute_iff_root_mem_steps, Path.isAbsolute_iff_root_mem_steps,
    Path.steps_descend hnames]
  simp

end FileTree

end PotCatalog
