/-
  A directory as a tree of its own.

  What lies below a directory can be looked at from the root of a tree that
  holds nothing else.  `Mirrors` says that a path below a directory and a path
  of that smaller tree are written with the same parts; if there are no links
  below the directory and no part leads up, both lead to the same node
  (`Mirrors.resolve`) and have the same name (`Mirrors.displayPath`).
-/
import PotCatalog.Proofs.Scan.Walking

namespace PotCatalog

/-! ## Written parts -/

namespace Path

variable {base p q r : Path}

/-- The parts of a path that are not empty. -/
def written (p : Path) : List (List Char) := (splitSlash p.text.toList).filter (!·.isEmpty)

theorem filterMap_written {α : Type} {f : List Char → Option α} (hf : f [] = none) (p : Path) :
    p.written.filterMap f = (splitSlash p.text.toList).filterMap f := by
  rw [written, List.filterMap_filter]
  refine List.filterMap_congr fun part _ => ?_
  cases part with
  | nil => exact hf.symm
  | cons c cs => rfl

theorem moves_eq_written (p : Path) :
    p.moves = p.written.filterMap Move.ofPart? ++ if p.endsInSlash then [.slash] else [] := by
  rw [moves, filterMap_written rfl]

theorem startsAtDot_eq (h : p.isAbsolute = false) :
    p.startsAtDot = (p.written.head? == some ['.']) := by
  have hrel := mt (isAbsolute_iff p).2 (by simp [h])
  rw [startsAtDot, written]
  obtain ⟨part, parts, hs⟩ := List.exists_cons_of_ne_nil (splitSlash_ne_nil p.text.toList)
  rw [hs] at hrel ⊢
  cases part with
  | cons c cs => simp
  | nil =>
    -- a relative path with an empty first part is empty
    cases parts with
    | nil => simp
    | cons part parts => exact absurd ⟨part, parts, rfl⟩ hrel

theorem components_eq_written (p : Path) :
    p.components =
      (if p.isAbsolute then [.root] else if p.written.head? = some ['.'] then [.current] else []) ++
        p.written.filterMap Component.ofPart? := by
  rw [components_eq, filterMap_written rfl]
  cases h : p.isAbsolute with
  | true => rfl
  | false => simp [startsAtDot_eq h]

theorem written_join (hr : r.isAbsolute = false) :
    (base.join r).written = base.written ++ r.written := by
  by_cases hb : base.text = ""
  · simp [join_of_text_eq_empty hb, written, hb, splitSlash]
  · obtain ⟨parts, -, hjoin, hbase⟩ := exists_splitSlash_join hr hb
    rw [written, written, written, hjoin, List.filter_append]
    rcases hbase with h | h <;> simp [h]

theorem exists_text_join (hb : base.text ≠ "") (hr : r.isAbsolute = false) :
    ∃ before ⊆ base.text.toList,
      (base.join r).text.toList = before ++ '/' :: r.text.toList := by
  by_cases hslash : base.endsInSlash = true
  · obtain ⟨before, hbefore⟩ := List.getLast?_eq_some_iff.1 (beq_iff_eq.1 hslash)
    refine ⟨before, ?_, by simp [join, hr, hslash, hbefore]⟩
    rw [hbefore]
    exact List.subset_append_left _ _
  · exact ⟨base.text.toList, List.Subset.refl _, by simp [join, hr, hb, hslash]⟩

theorem endsInSlash_join (hb : base.text ≠ "") (hr : r.isAbsolute = false) :
    (base.join r).endsInSlash = (r.text.isEmpty || r.endsInSlash) := by
  obtain ⟨before, -, hjoin⟩ := exists_text_join hb hr
  rw [endsInSlash, endsInSlash, hjoin]
  cases hlast : r.text.toList.getLast? with
  | none =>
    have hempty : r.text = "" := String.toList_eq_nil_iff.1 (List.getLast?_eq_none_iff.1 hlast)
    simp [hempty]
  | some c =>
    have hempty : r.text ≠ "" := by
      rintro hempty
      simp [hempty] at hlast
    simp [List.getLast?_cons, hlast, hempty]

theorem text_ne_empty_of_isAbsolute (h : p.isAbsolute = true) : p.text ≠ "" := by
  intro hempty
  simp [isAbsolute, hempty] at h

theorem text_ne_empty_of_written (h : p.written ≠ []) : p.text ≠ "" := by
  intro hempty
  simp [written, hempty, splitSlash] at h

theorem written_ne_nil (h : p.isAbsolute = false) (hne : p.text ≠ "") : p.written ≠ [] := by
  obtain ⟨c, cs, hcs⟩ := List.exists_cons_of_ne_nil (mt String.toList_eq_nil_iff.1 hne)
  have hc : c ≠ '/' := by
    rintro rfl
    simp [isAbsolute, hcs] at h
  obtain ⟨part, hpart, hpartne⟩ := exists_part_of_mem (hcs ▸ List.mem_cons_self ..) hc
  intro hnil
  have := List.filter_eq_nil_iff.1 hnil part hpart
  simp [hpartne] at this

/-- A relative path without two dots. -/
structure IsInward (r : Path) : Prop where
  relative : r.isAbsolute = false
  inside : ['.', '.'] ∉ r.written

/-- A path that is written without single and double dots. -/
def IsPlain (p : Path) : Prop := ∀ part ∈ p.written, part ≠ ['.'] ∧ part ≠ ['.', '.']

theorem current_notMem_filterMap (parts : List (List Char)) :
    .current ∉ parts.filterMap Component.ofPart? := by
  intro hmem
  obtain ⟨part, -, hpart⟩ := List.mem_filterMap.1 hmem
  exact (Component.ofPart?_ne_current hpart).1 rfl

theorem IsPlain.current_notMem (h : p.IsPlain) : .current ∉ p.components := by
  rw [components_eq_written, List.mem_append, not_or]
  refine ⟨?_, current_notMem_filterMap _⟩
  split
  · simp
  · split
    case isTrue hdot => exact absurd rfl (h _ (List.mem_of_mem_head? hdot)).1
    case isFalse => simp

theorem up_notMem_moves (h : ['.', '.'] ∉ p.written) : .up ∉ p.moves := by
  have hpart : ∀ part ∈ p.written, Move.ofPart? part ≠ some .up := by
    intro part hpart hup
    unfold Move.ofPart? at hup
    split_ifs at hup with _ _ hdots
    · simp at hup
    · exact h (hdots ▸ hpart)
    · simp at hup
  rw [moves_eq_written, List.mem_append, List.mem_filterMap]
  rintro (⟨part, hmem, hup⟩ | hslash)
  · exact hpart part hmem hup
  · split at hslash <;> simp at hslash

end Path

/-! ## Passing a directory -/

/-- Whatever is followed behind some moves is followed from a place. -/
def Passes (root : Node) (links : Nat) (here : List String) (xs : List Move) (left : Nat)
    (place : List String) : Prop :=
  ∀ purpose ≠ .write, ∀ ms ≠ [],
    FileTree.follow root purpose links here (xs ++ ms) = FileTree.follow root purpose left place ms

section
variable {root : Node} {links : Nat} {here names : List String} {xs ms : List Move}

/-- Passing a place behind one move, from passing it behind what that move is
    followed by: what is left, behind the moves of a link. -/
theorem exists_passes_cons {m : Move} {rest : List Move} {links' : Nat} {here' : List String}
    (target : List Move) (h : Leads root links here (m :: rest) names)
    (hstep : ∀ purpose ≠ .write, ∀ more ≠ [],
      FileTree.follow root purpose links here (m :: more) =
        FileTree.follow root purpose links' here' (target ++ more))
    (hpasses : ∀ {xs}, xs ++ ms = target ++ rest →
      ∃ left ≤ links', ∃ place, Passes root links' here' xs left place ∧ Leads root left place ms names)
    (hmoves : xs ++ ms = m :: rest) (hlinks : links' ≤ links) :
    ∃ left ≤ links, ∃ place, Passes root links here xs left place ∧ Leads root left place ms names := by
  cases xs with
  | nil =>
    obtain rfl : ms = m :: rest := hmoves
    exact ⟨links, Nat.le_refl _, here, fun _ _ _ _ => rfl, h⟩
  | cons x xs =>
    obtain ⟨rfl, rfl⟩ := List.cons.inj hmoves
    obtain ⟨left, hleft, place, hpass, hleads⟩ := hpasses (List.append_assoc ..)
    refine ⟨left, Nat.le_trans hleft hlinks, place, fun purpose hpurpose more hmore => ?_, hleads⟩
    rw [List.cons_append, hstep purpose hpurpose _ (by simp [hmore]), ← List.append_assoc]
    exact hpass purpose hpurpose more hmore

/-- Moves that lead to a node pass a place after any number of them, with no more
    links left than there were. -/
theorem Leads.exists_passes (h : Leads root links here (xs ++ ms) names)
    (hnode : (root.at? names).isSome) :
    ∃ left ≤ links, ∃ place, Passes root links here xs left place ∧ Leads root left place ms names := by
  -- a link puts its own moves in front, so `xs` has to vary along the run
  generalize hmoves : xs ++ ms = moves at h
  induction h generalizing xs with
  | @done links here =>
    obtain ⟨rfl, rfl⟩ := List.append_eq_nil_iff.1 hmoves
    exact ⟨links, Nat.le_refl _, here, fun _ _ _ _ => rfl, .done⟩
  | slash hhere hrest ih =>
    refine exists_passes_cons [] (.slash hhere hrest) (fun purpose _ more _ => ?_) (ih hnode) hmoves
      (Nat.le_refl _)
    simp [FileTree.follow, hhere]
  | stay hhere hrest ih =>
    refine exists_passes_cons [] (.stay hhere hrest) (fun purpose _ more _ => ?_) (ih hnode) hmoves
      (Nat.le_refl _)
    simp [FileTree.follow, hhere]
  | up hhere hrest ih =>
    refine exists_passes_cons [] (.up hhere hrest) (fun purpose _ more _ => ?_) (ih hnode) hmoves
      (Nat.le_refl _)
    simp [FileTree.follow, hhere]
  | free hhere hfind => simp [Node.at?_append, hhere, Node.at?, Node.child?, hfind] at hnode
  | @link _ _ _ _ _ _ target hhere hfind hrest ih =>
    refine exists_passes_cons target.moves (.link hhere hfind hrest)
      (fun purpose hpurpose more hmore => ?_) (ih hnode) hmoves (Nat.le_succ _)
    rw [FileTree.follow, hhere]
    simp [hfind, hpurpose, hmore]
  | down hhere hfind hother hrest ih =>
    refine exists_passes_cons [] (.down hhere hfind hother hrest)
      (fun purpose hpurpose more _ => ?_) (ih hnode) hmoves (Nat.le_refl _)
    rw [FileTree.follow, hhere]
    simp [hfind, hpurpose]

end

/-! ## Trees without links -/

mutual

/-- Whether a node is no link and holds none. -/
def Node.isLinkless : Node → Bool
  | .file _ => true
  | .link _ => false
  | .folder _ entries => entriesLinkless entries

/-- Whether no entries are links or hold some. -/
def entriesLinkless : List (String × Node) → Bool
  | [] => true
  | (_, node) :: rest => node.isLinkless && entriesLinkless rest

end

theorem entriesLinkless_iff (entries : List (String × Node)) :
    entriesLinkless entries = true ↔ ∀ e ∈ entries, e.2.isLinkless = true := by
  induction entries with
  | nil => simp [entriesLinkless]
  | cons e rest ih => rw [entriesLinkless, Bool.and_eq_true, ih, List.forall_mem_cons]

theorem Node.isLinkless_of_at? {root node : Node} {names : List String}
    (hroot : root.isLinkless = true) (h : root.at? names = some node) : node.isLinkless = true := by
  induction names generalizing root with
  | nil => rwa [← Option.some.inj h]
  | cons name names ih =>
    obtain ⟨child, hchild, hat⟩ := Option.bind_eq_some_iff.1 h
    cases root with
    | file | link => simp [Node.child?] at hchild
    | folder isOpen entries =>
      exact ih ((entriesLinkless_iff entries).1 hroot _ (Entries.mem_of_find? hchild)) hat

/-- The name that a move goes down to. -/
def Move.name? : Move → Option String
  | down name => some name
  | stay | up | slash => none

section
variable {root node : Node} {links : Nat} {place here names : List String} {ms : List Move}

/-- Below a directory without links, moves that do not lead up lead to the same
    place as in the tree that holds the directory alone. -/
theorem follow_below {purpose : Purpose} (hplace : root.at? place = some node)
    (hlinks : node.isLinkless = true) (hup : .up ∉ ms) (links' : Nat) :
    FileTree.follow root purpose links (place ++ here) ms =
      (FileTree.follow node purpose links' here ms).map (place ++ ·) := by
  induction ms generalizing here with
  | nil => rw [FileTree.follow, FileTree.follow]; rfl
  | cons m ms ih =>
    obtain ⟨hm, hrest⟩ : .up ≠ m ∧ .up ∉ ms := by simpa using hup
    have hat : root.at? (place ++ here) = node.at? here := by
      rw [Node.at?_append, hplace, Option.bind_some]
    rw [FileTree.follow, FileTree.follow, hat]
    cases hhere : node.at? here with
    | none => rfl
    | some found =>
      cases found with
      | file | link => rfl
      | folder isOpen entries =>
        have hentries := (entriesLinkless_iff entries).1 (Node.isLinkless_of_at? hlinks hhere)
        dsimp only
        split
        · rfl
        · cases m with
          | stay | slash => exact ih hrest
          | up => exact absurd rfl hm
          | down name =>
            dsimp only
            split
            · rfl
            · cases hfind : Entries.find? entries name with
              | none =>
                dsimp only
                split
                · simp [Except.map]
                · rfl
              | some child =>
                cases child with
                | link target =>
                  have := hentries _ (Entries.mem_of_find? hfind)
                  simp [Node.isLinkless] at this
                | file | folder =>
                  dsimp only
                  rw [List.append_assoc]
                  exact ih hrest

/-- In a tree without links, moves that do not lead up lead to the names that
    they go down to. -/
theorem Leads.names_eq (h : Leads root links here ms names) (hlinks : root.isLinkless = true)
    (hup : .up ∉ ms) : names = here ++ ms.filterMap Move.name? := by
  induction h with
  | done => exact (List.append_nil _).symm
  | slash _ _ ih | stay _ _ ih => exact ih fun hmem => hup (List.mem_cons_of_mem _ hmem)
  | up => exact absurd (List.mem_cons_self ..) hup
  | free _ _ hrest => rcases hrest with rfl | rfl <;> rfl
  | link hhere hfind =>
    have hentries := (entriesLinkless_iff _).1 (Node.isLinkless_of_at? hlinks hhere)
    have := hentries _ (Entries.mem_of_find? hfind)
    simp [Node.isLinkless] at this
  | down _ _ _ _ ih =>
    rw [ih fun hmem => hup (List.mem_cons_of_mem _ hmem), List.append_assoc]
    rfl

end

/-! ## Mirrored paths -/

/-- The root of a tree. -/
def Path.top : Path := ⟨"/"⟩

theorem Path.top_text_ne : Path.top.text ≠ "" := by decide

/-- A path below a base directory and a path below the root are written with
    the same parts, none of which leads up. -/
structure Mirrors (base p q : Path) : Prop where
  written : p.written = base.written ++ q.written
  inside : ['.', '.'] ∉ q.written
  anchored : p.isAbsolute = base.isAbsolute
  absolute : q.isAbsolute = true
  ends : p = base ∧ q = .top ∨ p.endsInSlash = q.endsInSlash

namespace Mirrors

variable {base p q r : Path}

theorem top (base : Path) : Mirrors base base .top where
  written := (List.append_nil _).symm
  inside := by decide
  anchored := rfl
  absolute := rfl
  ends := Or.inl ⟨rfl, rfl⟩

theorem text_ne_empty (h : Mirrors base p q) (hbase : base.text ≠ "") : p.text ≠ "" := by
  cases habs : base.isAbsolute with
  | true => exact Path.text_ne_empty_of_isAbsolute (h.anchored.trans habs)
  | false =>
    apply Path.text_ne_empty_of_written
    rw [h.written]
    exact List.append_ne_nil_of_left_ne_nil (Path.written_ne_nil habs hbase) _

theorem endsInSlash_join (h : Mirrors base p q) (hbase : base.text ≠ "")
    (hr : r.isAbsolute = false) : (p.join r).endsInSlash = (q.join r).endsInSlash := by
  rw [Path.endsInSlash_join (h.text_ne_empty hbase) hr,
    Path.endsInSlash_join (Path.text_ne_empty_of_isAbsolute h.absolute) hr]

theorem join (h : Mirrors base p q) (hbase : base.text ≠ "") (hr : r.IsInward) :
    Mirrors base (p.join r) (q.join r) where
  written := by
    rw [Path.written_join hr.relative, Path.written_join hr.relative, h.written, List.append_assoc]
  inside := by
    rw [Path.written_join hr.relative, List.mem_append, not_or]
    exact ⟨h.inside, hr.inside⟩
  anchored := (Path.isAbsolute_join hr.relative).trans h.anchored
  absolute := (Path.isAbsolute_join hr.relative).trans h.absolute
  ends := Or.inr (h.endsInSlash_join hbase hr.relative)

/-- Mirrored paths go on with the same components. -/
theorem components (h : Mirrors base p q) (hbase : base.text ≠ "") :
    p.components = base.components ++ q.written.filterMap Component.ofPart? ∧
      q.components = .root :: q.written.filterMap Component.ofPart? := by
  have hhead : base.isAbsolute = false → p.written.head? = base.written.head? := by
    intro hrel
    obtain ⟨part, parts, hparts⟩ := List.exists_cons_of_ne_nil (Path.written_ne_nil hrel hbase)
    rw [h.written, hparts, List.cons_append, List.head?_cons, List.head?_cons]
  constructor
  · rw [Path.components_eq_written p, Path.components_eq_written base, h.anchored]
    cases hrel : base.isAbsolute with
    | true =>
      rw [h.written, List.filterMap_append, List.append_assoc]
      rfl
    | false => rw [hhead hrel, h.written, List.filterMap_append, List.append_assoc]
  · rw [Path.components_eq_written q, h.absolute]
    rfl

/-- **Mirrored paths have the same name.** -/
theorem displayPath (h : Mirrors base p q) (hbase : base.text ≠ "") :
    displayPath base p = displayPath .top q := by
  obtain ⟨hp, hq⟩ := h.components hbase
  rw [PotCatalog.displayPath, PotCatalog.displayPath, hp, stripStart?_eq_some_iff.2 rfl, hq,
    show Path.top.components = [.root] by decide, stripStart?, if_pos rfl, stripStart?]
  rfl

end Mirrors

/-! ## What mirrored paths lead to -/

/-- A node as a tree of its own. -/
def Node.alone (node : Node) : FileTree := ⟨node, []⟩

/-- A base directory, written without dots, that holds no links. -/
structure FileTree.Houses (t : FileTree) (base : Path) (node : Node) : Prop where
  resolve : t.resolve base = .ok node
  isFolder : node.isFolder = true
  linkless : node.isLinkless = true
  plain : base.IsPlain

namespace FileTree.Houses

variable {t : FileTree} {base p q : Path} {node : Node}

theorem text_ne_empty (h : t.Houses base node) : base.text ≠ "" := by
  obtain ⟨names, hlocate, -⟩ := resolve_eq_ok_iff.1 h.resolve
  exact (locate_eq_ok_iff.1 hlocate).1

/-- Behind its base directory a path is followed from the place of the base. -/
theorem exists_passes (h : t.Houses base node) :
    ∃ left place, t.root.at? place = some node ∧
      Passes t.root maxLinks (if base.isAbsolute then [] else t.workingDir)
        (base.written.filterMap Move.ofPart?) left place := by
  obtain ⟨names, hlocate, hat⟩ := resolve_eq_ok_iff.1 h.resolve
  have hleads := (locate_eq_ok_iff.1 hlocate).2
  simp only [← Path.isAbsolute_iff_root_mem_steps] at hleads
  rw [Path.moves_eq_written] at hleads
  obtain ⟨left, -, place, hpass, hrest⟩ := hleads.exists_passes (by simp [hat])
  have hplace : place = names := by
    split at hrest
    · cases hrest with
      | slash _ hrest => cases hrest; rfl
    · cases hrest; rfl
  exact ⟨left, place, hplace ▸ hat, hpass⟩

theorem exists_locate (h : t.Houses base node) :
    ∃ place, t.root.at? place = some node ∧
      ∀ {p q : Path} {purpose}, Mirrors base p q → p.endsInSlash = q.endsInSlash →
        purpose ≠ .write →
        t.locate purpose p = (node.alone.locate purpose q).map (place ++ ·) := by
  obtain ⟨left, place, hat, hpass⟩ := h.exists_passes
  refine ⟨place, hat, fun {p q purpose} hmirror hends hpurpose => ?_⟩
  have hp := hmirror.text_ne_empty h.text_ne_empty
  have hq := Path.text_ne_empty_of_isAbsolute hmirror.absolute
  have hmoves : p.moves = base.written.filterMap Move.ofPart? ++ q.moves := by
    rw [Path.moves_eq_written, Path.moves_eq_written q, hmirror.written, hends,
      List.filterMap_append, List.append_assoc]
  rw [locate, locate, if_neg (mt String.isEmpty_iff.1 hp), if_neg (mt String.isEmpty_iff.1 hq),
    hmirror.anchored, hmirror.absolute, hmoves, hpass purpose hpurpose _ (Path.moves_ne_nil hq),
    if_pos rfl]
  have hbelow : follow t.root purpose left (place ++ []) q.moves =
      (follow node purpose maxLinks [] q.moves).map (place ++ ·) :=
    follow_below hat h.linkless (Path.up_notMem_moves hmirror.inside) maxLinks
  rwa [List.append_nil] at hbelow

/-- **Mirrored paths lead to the same node.** -/
theorem resolve_eq (h : t.Houses base node) (hmirror : Mirrors base p q) :
    t.resolve p = node.alone.resolve q := by
  rcases hmirror.ends with ⟨rfl, rfl⟩ | hends
  · have htop : node.alone.resolve .top = .ok node := by
      obtain ⟨isOpen, entries, rfl⟩ : ∃ isOpen entries, node = .folder isOpen entries := by
        cases hnode : node with
        | folder isOpen entries => exact ⟨isOpen, entries, rfl⟩
        | file | link => simpa [hnode, Node.isFolder] using h.isFolder
      refine resolve_eq_ok_iff.2 ⟨[], locate_eq_ok_iff.2 ⟨by decide, ?_⟩, rfl⟩
      exact .slash rfl .done
    rw [h.resolve, htop]
  · obtain ⟨place, hat, hlocate⟩ := h.exists_locate
    rw [FileTree.resolve, FileTree.resolve, hlocate hmirror hends (by decide)]
    cases node.alone.locate .inspect q with
    | error e => rfl
    | ok names =>
      simp only [Except.map, bind, Except.bind, Node.at?_append, hat]
      rfl

theorem isFolder_eq (h : t.Houses base node) (hmirror : Mirrors base p q) :
    t.isFolder p = node.alone.isFolder q := by
  rw [FileTree.isFolder, FileTree.isFolder, h.resolve_eq hmirror]

theorem isFile_eq (h : t.Houses base node) (hmirror : Mirrors base p q) :
    t.isFile p = node.alone.isFile q := by
  rw [isFile, isFile, h.resolve_eq hmirror]

theorem list_eq (h : t.Houses base node) (hmirror : Mirrors base p q) :
    t.list p = node.alone.list q := by
  rw [list, list, h.resolve_eq hmirror]

theorem hasEntry_eq (h : t.Houses base node) (hmirror : Mirrors base p q)
    (hends : p.endsInSlash = q.endsInSlash) : t.hasEntry p = node.alone.hasEntry q := by
  obtain ⟨place, hat, hlocate⟩ := h.exists_locate
  rw [hasEntry, hasEntry, hlocate hmirror hends (by decide)]
  cases node.alone.locate .entry q with
  | error e => rfl
  | ok names =>
    show (t.root.at? (place ++ names)).isSome = _
    rw [Node.at?_append, hat]
    rfl

end FileTree.Houses

end PotCatalog
