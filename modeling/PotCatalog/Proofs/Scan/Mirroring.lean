/-
  Walks and expansions below a directory, and in the tree that holds the
  directory alone.

  Whatever is met below the directory mirrors what is met in the smaller tree,
  in the same order: the files of a walk (`Node.walk_mirrors`) and the matches
  of patterns (`expandFrom_mirrors`), as long as no component of a pattern
  takes the two dots that lead up.
-/
import Mathlib.Data.List.Forall2
import PotCatalog.Proofs.Scan.Expansion
import PotCatalog.Proofs.Scan.Subtree

namespace PotCatalog

/-! ## Names below mirrored directories -/

section
variable {name : String} {base p q : Path}

theorem Component.IsInner.isInward (h : (Component.name name).IsInner) :
    (Path.mk name).IsInward where
  relative := h.isAbsolute_eq
  inside := by
    intro hmem
    rw [Path.written, h.splitSlash_eq] at hmem
    have hdots := List.mem_singleton.1 (List.mem_filter.1 hmem).1
    have hpart := h.1
    rw [Component.text, ← hdots] at hpart
    simp [Component.ofPart?, isIdlePart] at hpart

theorem Component.IsInner.fileName?_join (h : (Component.name name).IsInner) (p : Path) :
    (p.join ⟨name⟩).fileName? = some name := by
  rw [Path.fileName?, Path.components_eq_steps, Path.steps_join h.isAbsolute_eq, h.steps_eq,
    ← List.append_assoc, List.getLast?_concat]

end

/-! ## Walks -/

/-- What is met on mirrored paths. -/
inductive VisitsMirror (base : Path) : Visit → Visit → Prop where
  | file {p q} (h : Mirrors base p q) (hname : p.fileName? = q.fileName?) :
      VisitsMirror base (.file p) (.file q)
  | blocked (p q : Path) : VisitsMirror base (.blocked p) (.blocked q)

mutual

theorem Node.walk_mirrors {base p q : Path} (hbase : base.text ≠ "") (node : Node)
    (hnode : node.isProper = true) (h : Mirrors base p q) (hname : p.fileName? = q.fileName?) :
    List.Forall₂ (VisitsMirror base) (node.walk p) (node.walk q) := by
  match node with
  | .file _ => exact .cons (.file h hname) .nil
  | .link _ => exact .nil
  | .folder false _ => exact .cons (.blocked p q) .nil
  | .folder true entries =>
    exact walkEntries_mirrors hbase entries (Node.isProper_folder_iff.1 hnode).2 h

theorem walkEntries_mirrors {base p q : Path} (hbase : base.text ≠ "")
    (entries : List (String × Node))
    (hentries : ∀ name node, (name, node) ∈ entries →
      (Component.name name).IsInner ∧ node.isProper = true) (h : Mirrors base p q) :
    List.Forall₂ (VisitsMirror base) (walkEntries p entries) (walkEntries q entries) := by
  match entries with
  | [] => exact .nil
  | (name, node) :: rest =>
    obtain ⟨hname, hnode⟩ := hentries name node (List.mem_cons_self ..)
    rw [walkEntries, walkEntries]
    refine List.rel_append (R := VisitsMirror base) ?_ ?_
    · refine node.walk_mirrors hbase hnode (h.join hbase hname.isInward) ?_
      rw [hname.fileName?_join, hname.fileName?_join]
    · exact walkEntries_mirrors hbase rest
        (fun name node hmem => hentries name node (List.mem_cons_of_mem _ hmem)) h

end

theorem FileTree.Houses.wellFormed_alone {t : FileTree} {node : Node} {base : Path}
    (h : t.Houses base node) (hnode : node.isProper = true) : node.alone.WellFormed :=
  ⟨hnode, h.isFolder, ⟨node, rfl, h.isFolder⟩⟩

theorem FileTree.Houses.walk_mirrors {t : FileTree} {node : Node} {base p q : Path}
    (h : t.Houses base node) (hnode : node.isProper = true) (hmirror : Mirrors base p q)
    (hfolder : t.isFolder p = true) :
    List.Forall₂ (VisitsMirror base) (t.walk p) (node.alone.walk q) := by
  rw [FileTree.isFolder, h.resolve_eq hmirror] at hfolder
  rw [FileTree.walk, FileTree.walk, h.resolve_eq hmirror]
  cases hresolve : node.alone.resolve q with
  | error e => simp [hresolve] at hfolder
  | ok found =>
    rw [hresolve] at hfolder
    obtain ⟨names, -, hat⟩ := FileTree.resolve_eq_ok_iff.1 hresolve
    have hfound := Node.isProper_of_at? hnode hat
    cases found with
    | file | link => cases hfolder
    | folder isOpen entries =>
      cases isOpen with
      | true =>
        exact walkEntries_mirrors h.text_ne_empty entries (Node.isProper_folder_iff.1 hfound).2
          hmirror
      | false => exact .cons (.blocked p q) .nil

/-! ## Heights -/

theorem Node.height_le_of_mem {entries : List (String × Node)} {name : String} {node : Node}
    (h : (name, node) ∈ entries) : node.height ≤ Node.entriesHeight entries := by
  induction entries with
  | nil => simp at h
  | cons e rest ih =>
    rw [Node.entriesHeight]
    rcases List.mem_cons.1 h with rfl | h
    · exact Nat.le_max_left _ _
    · exact Nat.le_trans (ih h) (Nat.le_max_right _ _)

theorem Node.height_le_of_at? {root node : Node} {names : List String}
    (h : root.at? names = some node) : node.height ≤ root.height := by
  induction names generalizing root with
  | nil => exact Nat.le_of_eq (congrArg Node.height (Option.some.inj h).symm)
  | cons name names ih =>
    obtain ⟨child, hchild, hat⟩ := Option.bind_eq_some_iff.1 h
    cases root with
    | file | link => simp [Node.child?] at hchild
    | folder isOpen entries =>
      have hle := Node.height_le_of_mem (Entries.mem_of_find? hchild)
      rw [Node.height]
      exact Nat.le_trans (ih hat) (Nat.le_succ_of_le hle)

/-- The name that a step goes down to. -/
def Component.name? : Component → Option String
  | name text => some text
  | root | current | parent => none

/-- The names that a path goes down to. -/
def Path.names (p : Path) : List String := p.steps.filterMap Component.name?

theorem Path.filterMap_name_moves (p : Path) : p.moves.filterMap Move.name? = p.names := by
  have hidle : p.moves.filterMap Move.name? =
      (p.moves.filter (!·.isIdle)).filterMap Move.name? := by
    rw [List.filterMap_filter]
    refine List.filterMap_congr fun m _ => ?_
    cases m <;> rfl
  rw [hidle, Path.filter_moves, List.filterMap_filterMap, names]
  refine List.filterMap_congr fun c _ => ?_
  cases c <;> rfl

/-- The height of what the names of a path lead to. -/
def Node.heightAt (node : Node) (p : Path) : Nat := ((node.at? p.names).map Node.height).getD 0

section
variable {node : Node} {name : String} {entries : Entries} {p q r : Path}

theorem Path.names_join (hr : r.isAbsolute = false) : (p.join r).names = p.names ++ r.names := by
  rw [names, steps_join hr, List.filterMap_append]
  rfl

theorem Node.heightAt_le (node : Node) (p : Path) : node.heightAt p ≤ node.height := by
  rw [heightAt]
  cases hat : node.at? p.names with
  | none => exact Nat.zero_le _
  | some found => exact Node.height_le_of_at? hat

theorem Node.heightAt_join_le (node : Node) (p : Path) (hr : r.isAbsolute = false) :
    node.heightAt (p.join r) ≤ node.heightAt p := by
  rw [heightAt, heightAt, Path.names_join hr, Node.at?_append]
  cases hat : node.at? p.names with
  | none => exact Nat.le_refl _
  | some found =>
    cases hfound : found.at? r.names with
    | none => simp [hfound]
    | some deeper => simpa [hfound] using Node.height_le_of_at? hfound

/-- In a tree without links, the entries of a directory are lower than it. -/
theorem Node.heightAt_join_lt (hnode : node.isProper = true) (hlinks : node.isLinkless = true)
    (hq : q.isAbsolute = true) (hup : ['.', '.'] ∉ q.written)
    (hlist : node.alone.list q = .ok entries) {child : Node} (hmem : (name, child) ∈ entries) :
    node.heightAt (q.join ⟨name⟩) < node.heightAt q := by
  obtain ⟨found, hfound, hlist⟩ := bind_eq_ok.1 hlist
  obtain ⟨place, hlocate, hat⟩ := FileTree.resolve_eq_ok_iff.1 hfound
  obtain rfl : found = .folder true entries := by
    match found, hlist with
    | .folder true entries, rfl => rfl
  have hplace : place = q.names := by
    have hleads := (FileTree.locate_eq_ok_iff.1 hlocate).2
    rw [hleads.names_eq hlinks (Path.up_notMem_moves hup), Path.filterMap_name_moves,
      if_pos ((Path.isAbsolute_iff_root_mem_steps q).1 hq)]
    rfl
  subst hplace
  obtain ⟨hnodup, hentries⟩ := Node.isProper_folder_iff.1 (Node.isProper_of_at? hnode hat)
  have hname := (hentries name child hmem).1
  have hjoin : (q.join ⟨name⟩).names = q.names ++ [name] := by
    rw [Path.names_join hname.isAbsolute_eq, Path.names, Path.names, hname.steps_eq]
    rfl
  change node.at? q.names = some (.folder true entries) at hat
  have hchild : node.at? (q.names ++ [name]) = some child := by
    rw [Node.at?_append, hat]
    simp [Node.at?, Node.child?, Entries.find?_of_mem hnodup hmem]
  rw [heightAt, heightAt, hjoin, hchild, hat]
  exact Nat.lt_succ_of_le (Node.height_le_of_mem hmem)

end

/-! ## Expansions -/

namespace Glob

/-- Matches that mirror each other. -/
inductive HitsMirror (base : Path) : Hit → Hit → Prop where
  | path {p q} (h : Mirrors base p q) : HitsMirror base (.path p) (.path q)
  | unreadable (p q : Path) (error : SystemError) :
      HitsMirror base (.unreadable p error) (.unreadable q error)

/-- A component that stands for a name, or compares names, and does not take
    the two dots. -/
structure StaysInside (pattern : Pattern) : Prop where
  slashless : ∀ name, pattern.literalText? = some name → '/' ∉ name
  inside : pattern.head? = some (.literal '.') → pattern.isMatch ".." = false

/-- Two ways to go on agree on paths that mirror each other, as long as there
    are at most so many patterns and directories ahead. -/
def Agree (base : Path) (node : Node) (bound : Nat)
    (deeper deeper' : List Pattern → Path → List Hit) : Prop :=
  ∀ ⦃patterns p q⦄, (∀ pattern ∈ patterns, StaysInside pattern) → Mirrors base p q →
    patterns.length + node.heightAt q ≤ bound →
    List.Forall₂ (HitsMirror base) (deeper patterns p) (deeper' patterns q)

theorem eq_map_literal {pattern : Pattern} {name : List Char}
    (h : pattern.literalText? = some name) : pattern = name.map .literal := by
  induction pattern generalizing name with
  | nil =>
    cases h
    rfl
  | cons token rest ih =>
    cases token with
    | literal c =>
      obtain ⟨text, htext, rfl⟩ := Option.map_eq_some_iff.1 h
      rw [ih htext, List.map_cons]
    | anyOne | anyRun | anyFolders | oneOf | noneOf => simp [Pattern.literalText?] at h

/-- A component without wildcards that stays inside leads to a name inside. -/
theorem StaysInside.isInward {pattern : Pattern} {name : List Char} (h : StaysInside pattern)
    (hname : pattern.literalText? = some name) : (Path.mk (String.ofList name)).IsInward := by
  have hslash : '/' ∉ (String.ofList name).toList := by simpa using h.slashless name hname
  refine ⟨Path.isAbsolute_of_slash_notMem hslash, fun hmem => ?_⟩
  rw [Path.written, splitSlash_of_notMem hslash, String.toList_ofList] at hmem
  obtain rfl := List.mem_singleton.1 (List.mem_filter.1 hmem).1
  have hpattern := eq_map_literal hname
  have hinside := h.inside (by rw [hpattern]; rfl)
  rw [hpattern] at hinside
  exact absurd hinside (by decide)

section
variable {t : FileTree} {base : Path} {node : Node} {foldersOnly : Bool} {bound : Nat}
variable {deeper deeper' : List Pattern → Path → List Hit} {pattern : Pattern}
variable {patterns rest : List Pattern} {p q : Path} {name : String}

theorem within_eq_join (h : .current ∉ p.components) (name : String) :
    within p name = p.join ⟨name⟩ := by
  rw [within, if_neg]
  intro hcurrent
  exact h (hcurrent ▸ List.mem_singleton_self _)

theorem within_of_mirrors (h : t.Houses base node) (hmirror : Mirrors base p q) (name : String) :
    within p name = p.join ⟨name⟩ ∧ within q name = q.join ⟨name⟩ := by
  obtain ⟨hp, hq⟩ := hmirror.components h.text_ne_empty
  have hparts := Path.current_notMem_filterMap q.written
  constructor
  · refine within_eq_join ?_ name
    rw [hp, List.mem_append, not_or]
    exact ⟨h.plain.current_notMem, hparts⟩
  · refine within_eq_join ?_ name
    rw [hq, List.mem_cons, not_or]
    exact ⟨nofun, hparts⟩

theorem advance_mirrors (h : t.Houses base node) (hagree : Agree base node bound deeper deeper')
    (hrest : ∀ pattern ∈ rest, StaysInside pattern) (hmirror : Mirrors base p q)
    (hbound : rest.length + node.heightAt q ≤ bound) :
    List.Forall₂ (HitsMirror base) (advance t foldersOnly deeper rest p)
      (advance node.alone foldersOnly deeper' rest q) := by
  cases rest with
  | nil =>
    rw [advance, advance, h.isFolder_eq hmirror]
    split
    · exact .cons (.path hmirror) .nil
    · exact .nil
  | cons pattern rest => exact hagree hrest hmirror hbound

theorem compareName_mirrors (h : t.Houses base node) (hagree : Agree base node bound deeper deeper')
    (hpatterns : ∀ pattern ∈ patterns, StaysInside pattern) (hmirror : Mirrors base p q)
    (hbound : patterns.length + node.heightAt q ≤ bound + 1) (name : String) :
    List.Forall₂ (HitsMirror base) (compareName t foldersOnly deeper patterns p name)
      (compareName node.alone foldersOnly deeper' patterns q name) := by
  cases patterns with
  | nil => exact .nil
  | cons pattern rest =>
    rw [compareName, compareName]
    split
    · rw [List.length_cons] at hbound
      exact advance_mirrors h hagree (fun other hmem => hpatterns other (List.mem_cons_of_mem _ hmem))
        hmirror (by omega)
    · exact .nil

/-- An entry is lower than its directory, so a recursive pattern may go on with
    as many patterns as before. -/
theorem compareEntry_mirrors (h : t.Houses base node)
    (hagree : Agree base node bound deeper deeper')
    (hpatterns : ∀ pattern ∈ patterns, StaysInside pattern) (hmirror : Mirrors base p q)
    (hname : (Component.name name).IsInner)
    (hbound : patterns.length + node.heightAt (q.join ⟨name⟩) ≤ bound) :
    List.Forall₂ (HitsMirror base) (compareEntry t foldersOnly deeper patterns p name)
      (compareEntry node.alone foldersOnly deeper' patterns q name) := by
  obtain ⟨hp, hq⟩ := within_of_mirrors h hmirror name
  have hjoin := hmirror.join h.text_ne_empty hname.isInward
  unfold compareEntry
  rw [hp, hq]
  cases patterns with
  | nil => exact .nil
  | cons pattern rest =>
    have hsub := List.dropWhile_sublist (l := rest) Pattern.isRecursive
    have hlength := hsub.length_le
    rw [List.length_cons] at hbound
    have hrest : ∀ other ∈ rest.dropWhile Pattern.isRecursive, StaysInside other :=
      fun other hmem => hpatterns other (List.mem_cons_of_mem _ (hsub.subset hmem))
    dsimp only
    rw [h.isFolder_eq hjoin]
    split
    · split
      · refine List.rel_append (R := HitsMirror base) ?_ ?_
        · split
          · exact .cons (.path hjoin) .nil
          · exact compareName_mirrors h hagree hrest hjoin (by omega) name
        · refine hagree ?_ hjoin (by rw [List.length_cons]; omega)
          exact List.forall_mem_cons.2 ⟨hpatterns _ (List.mem_cons_self ..), hrest⟩
      · exact compareName_mirrors h hagree hrest hjoin (by omega) name
    · exact compareName_mirrors h hagree hpatterns hjoin (by rw [List.length_cons]; omega) name

theorem isInward_dot : (Path.mk ".").IsInward := ⟨by decide, by decide⟩

theorem expandFolder_mirrors (h : t.Houses base node) (hnode : node.isProper = true)
    (hagree : Agree base node bound deeper deeper')
    (hpatterns : ∀ other ∈ pattern :: rest, StaysInside other) (hmirror : Mirrors base p q)
    (hbound : rest.length + node.heightAt q ≤ bound) :
    List.Forall₂ (HitsMirror base) (expandFolder t foldersOnly deeper pattern rest p)
      (expandFolder node.alone foldersOnly deeper' pattern rest q) := by
  obtain ⟨hpattern, hrest⟩ := List.forall_mem_cons.1 hpatterns
  rw [expandFolder, expandFolder, h.isFolder_eq hmirror, h.list_eq hmirror]
  split
  · exact .nil
  · cases hlist : node.alone.list q with
    | error e => exact .cons (.unreadable p q e) .nil
    | ok entries =>
      dsimp only
      refine List.rel_append (R := HitsMirror base) ?_ ?_
      · -- the two dots are not taken, and a single dot stays
        refine List.rel_flatMap (R := fun a b => a = b ∧ a = ".") ?_ ?_
        · rw [List.forall₂_same]
          intro name hname
          refine ⟨rfl, ?_⟩
          split at hname
          case isTrue hhead =>
            have hdot : name = "." ∧ pattern.isMatch name = true := by
              simpa [dotNames, hpattern.inside hhead] using hname
            exact hdot.1
          case isFalse => simp at hname
        · rintro _ _ ⟨rfl, rfl⟩
          have hle := node.heightAt_join_le q isInward_dot.relative
          exact advance_mirrors h hagree hrest (hmirror.join h.text_ne_empty isInward_dot) (by omega)
      · refine List.rel_flatMap (R := fun a b => a = b ∧ a ∈ entries) ?_ ?_
        · rw [List.forall₂_same]
          exact fun entry hentry => ⟨rfl, hentry⟩
        · rintro ⟨name, child⟩ _ ⟨rfl, hmem⟩
          have hlt := Node.heightAt_join_lt hnode h.linkless hmirror.absolute hmirror.inside hlist hmem
          have hname := (h.wellFormed_alone hnode).isInner_of_list hlist hmem
          dsimp only
          exact compareEntry_mirrors h hagree hpatterns hmirror hname (by rw [List.length_cons]; omega)

theorem expandLiteral_mirrors (h : t.Houses base node) (hagree : Agree base node bound deeper deeper')
    (hrest : ∀ other ∈ rest, StaysInside other) (hmirror : Mirrors base p q)
    (hname : (Path.mk name).IsInward) (hbound : rest.length + node.heightAt q ≤ bound) :
    List.Forall₂ (HitsMirror base) (expandLiteral t foldersOnly deeper name rest p)
      (expandLiteral node.alone foldersOnly deeper' name rest q) := by
  obtain ⟨hp, hq⟩ := within_of_mirrors h hmirror name
  have hjoin := hmirror.join h.text_ne_empty hname
  have hentry := h.hasEntry_eq hjoin (hmirror.endsInSlash_join h.text_ne_empty hname.relative)
  have hle := node.heightAt_join_le q hname.relative
  unfold expandLiteral
  rw [hp, hq]
  dsimp only
  rw [hentry, h.isFolder_eq hmirror]
  generalize (if name ∈ dotNames then node.alone.isFolder q else _) = found
  split
  · exact advance_mirrors h hagree hrest hjoin (by omega)
  · exact .nil

/-- **Expansions below a directory mirror those in the tree that holds the
    directory alone,** if they may take as many steps as there are patterns and
    directories ahead. -/
theorem expandFrom_mirrors (h : t.Houses base node) (hnode : node.isProper = true)
    (foldersOnly : Bool) {fuel fuel' : Nat} (hfuel : bound ≤ fuel) (hfuel' : bound ≤ fuel') :
    Agree base node bound (expandFrom t foldersOnly fuel)
      (expandFrom node.alone foldersOnly fuel') := by
  induction bound generalizing fuel fuel' with
  | zero =>
    intro patterns p q _ _ hbound
    obtain rfl : patterns = [] := List.eq_nil_of_length_eq_zero (by omega)
    cases fuel <;> cases fuel' <;> exact .nil
  | succ bound ih =>
    intro patterns p q hpatterns hmirror hbound
    obtain ⟨fuel, rfl⟩ := Nat.exists_eq_add_of_le' (Nat.le_trans (Nat.le_add_left 1 bound) hfuel)
    obtain ⟨fuel', rfl⟩ := Nat.exists_eq_add_of_le' (Nat.le_trans (Nat.le_add_left 1 bound) hfuel')
    have hagree := ih (Nat.le_of_succ_le_succ hfuel) (Nat.le_of_succ_le_succ hfuel')
    cases patterns with
    | nil => exact .nil
    | cons pattern rest =>
      obtain ⟨hpattern, hrest⟩ := List.forall_mem_cons.1 hpatterns
      rw [List.length_cons] at hbound
      rw [expandFrom, expandFrom]
      cases hname : pattern.literalText? with
      | some name =>
        exact expandLiteral_mirrors h hagree hrest hmirror (hpattern.isInward hname) (by omega)
      | none => exact expandFolder_mirrors h hnode hagree hpatterns hmirror (by omega)

end

end Glob

end PotCatalog
