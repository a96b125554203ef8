/-
  Scans depend on nothing outside of their base directory.

  Two base directories that hold the same entries, no links among them, are
  scanned with the same result, wherever they are (`scanSources_eq_of_houses`),
  since each is scanned like the tree that holds it alone
  (`scanSources_alone`).  The sources have to stay below their base, and the
  base of a pattern must have no wildcards: it is read as a part of the
  pattern.
-/
import Mathlib.Algebra.GroupWithZero.Nat
import PotCatalog.Proofs.Scan.Admission
import PotCatalog.Proofs.Scan.Descent
import PotCatalog.Proofs.Scan.Opening

namespace PotCatalog

/-! ## What counts of what was found -/

/-- The files that were found and the number of skips. -/
def Found.digest (found : Found) : List String × Nat :=
  (found.files, found.notices.countP Notice.isSkip)

theorem map_eq_of_forall₂ {α β γ : Type} {R : α → β → Prop} {f : α → γ} {g : β → γ} {xs : List α}
    {ys : List β} (h : List.Forall₂ R xs ys) (hfg : ∀ a b, R a b → f a = g b) :
    xs.map f = ys.map g := by
  induction h with
  | nil => rfl
  | cons hab _ ih => rw [List.map_cons, List.map_cons, hfg _ _ hab, ih]

theorem Found.digest_join (parts : List Found) :
    (Found.join parts).digest =
      ((parts.map digest).flatMap Prod.fst, ((parts.map digest).map Prod.snd).sum) := by
  induction parts with
  | nil => rfl
  | cons part parts ih =>
    have hcons : (Found.join (part :: parts)).digest =
        (part.digest.1 ++ (Found.join parts).digest.1,
          part.digest.2 + (Found.join parts).digest.2) := by
      simp [join, digest, List.countP_append]
    rw [hcons, ih]
    rfl

theorem Found.digest_join_congr {parts parts' : List Found}
    (h : parts.map digest = parts'.map digest) : (join parts).digest = (join parts').digest := by
  rw [digest_join, digest_join, h]

theorem Scan.gather_eq (scan : Scan) (founds : List Found) :
    scan.gather founds = (founds.map Found.digest).foldl
      (fun scan d => ⟨addFiles scan.files d.1, scan.skipped + d.2⟩) scan := by
  rw [List.foldl_map]
  rfl

theorem mapM_map_toOption {ε ε' α β γ δ : Type} {f : α → Except ε β} {g : α → Except ε' γ}
    {d : β → δ} {d' : γ → δ} {l : List α}
    (h : ∀ a ∈ l, (f a).toOption.map d = (g a).toOption.map d') :
    (l.mapM f).toOption.map (List.map d) = (l.mapM g).toOption.map (List.map d') := by
  induction l with
  | nil => rfl
  | cons a l ih =>
    obtain ⟨ha, hl⟩ := List.forall_mem_cons.1 h
    have ih := ih hl
    rw [List.mapM_cons, List.mapM_cons]
    cases hf : f a with
    | error e =>
      cases hg : g a with
      | error e' => rfl
      | ok c => simp [hf, hg, Except.toOption] at ha
    | ok b =>
      cases hg : g a with
      | error e' => simp [hf, hg, Except.toOption] at ha
      | ok c =>
        have hbc : d b = d' c := by simpa [hf, hg, Except.toOption] using ha
        cases hfs : l.mapM f with
        | error e =>
          cases hgs : l.mapM g with
          | error e' => rfl
          | ok cs => simp [hfs, hgs, Except.toOption] at ih
        | ok bs =>
          cases hgs : l.mapM g with
          | error e' => simp [hfs, hgs, Except.toOption] at ih
          | ok cs =>
            have hrest : bs.map d = cs.map d' := by simpa [hfs, hgs, Except.toOption] using ih
            exact congrArg some (by rw [List.map_cons, List.map_cons, hbc, hrest])

/-! ## One source -/

namespace Scanner

/-- The scanner of the tree that holds a base directory alone. -/
def alone (s : Scanner) (node : Node) : Scanner := { s with tree := node.alone, base := .top }

section
variable {s : Scanner} {b p q : Path} {node : Node} {source : String}

theorem nameOf_eq (hbase : b.text ≠ "") (hb : b.components = s.base.components)
    (h : Mirrors b p q) : s.nameOf p = (s.alone node).nameOf q := by
  have hname := h.displayPath hbase
  rw [displayPath, hb] at hname
  exact hname

theorem isIgnored_eq (hbase : b.text ≠ "") (hb : b.components = s.base.components)
    (h : Mirrors b p q) : s.isIgnored p = (s.alone node).isIgnored q := by
  rw [isIgnored, isIgnored, nameOf_eq hbase hb h]
  rfl

theorem digest_ofVisit {visit visit' : Visit} (hbase : b.text ≠ "")
    (hb : b.components = s.base.components) (h : VisitsMirror b visit visit') :
    (s.ofVisit visit).digest = ((s.alone node).ofVisit visit').digest := by
  cases h with
  | blocked => rfl
  | @file p q h hname =>
    have hsupports : s.extensions.supports p = (s.alone node).extensions.supports q := by
      rw [ExtensionMap.supports, ExtensionMap.supports, ExtensionMap.kindFor, ExtensionMap.kindFor,
        Path.extension?, Path.extension?, hname]
      rfl
    rw [ofVisit, ofVisit, hsupports, isIgnored_eq hbase hb h, nameOf_eq hbase hb h]

theorem digest_ofFolder (h : s.tree.Houses b node) (hnode : node.isProper = true)
    (hb : b.components = s.base.components) (hmirror : Mirrors b p q)
    (hfolder : s.tree.isFolder p = true) :
    (s.ofFolder p).digest = ((s.alone node).ofFolder q).digest := by
  rw [ofFolder, ofFolder]
  apply Found.digest_join_congr
  rw [List.map_map, List.map_map]
  exact map_eq_of_forall₂ (h.walk_mirrors hnode hmirror hfolder) fun _ _ hvisit =>
    digest_ofVisit h.text_ne_empty hb hvisit

theorem digest_ofHit {hit hit' : Glob.Hit} (h : s.tree.Houses b node) (hnode : node.isProper = true)
    (hb : b.components = s.base.components) (hmirror : Glob.HitsMirror b hit hit') :
    (s.ofHit hit).digest = ((s.alone node).ofHit hit').digest := by
  cases hmirror with
  | unreadable => rfl
  | @path p q hmirror =>
    have hfolder : s.tree.isFolder p = (s.alone node).tree.isFolder q := h.isFolder_eq hmirror
    rw [ofHit, ofHit]
    rw [← hfolder, isIgnored_eq h.text_ne_empty hb hmirror, nameOf_eq h.text_ne_empty hb hmirror]
    split
    case isTrue hisFolder => exact digest_ofFolder h hnode hb hmirror hisFolder
    case isFalse => rfl

theorem isMatched_eq {hits hits' : List Glob.Hit}
    (h : List.Forall₂ (Glob.HitsMirror b) hits hits') : isMatched hits = isMatched hits' := by
  rw [isMatched, isMatched]
  induction h with
  | nil => rfl
  | cons hmirror _ ih =>
    rw [List.any_cons, List.any_cons, ih]
    cases hmirror <;> rfl

theorem ofPattern_digest (h : s.tree.Houses s.base node) (hnode : node.isProper = true)
    (hplain : Glob.isPattern s.base.text = false) (hsource : Glob.StaysBelow ⟨source⟩)
    (hne : source ≠ "") :
    (s.ofPattern source).toOption.map Found.digest =
      ((s.alone node).ofPattern source).toOption.map Found.digest := by
  rw [ofPattern, ofPattern]
  obtain ⟨before, -, -, -, hjoin⟩ :=
    Glob.PathPattern.parse_join h.text_ne_empty hplain hsource.inward.relative
  have htop : (s.alone node).base = .top := rfl
  rw [htop]
  cases hparse : Glob.PathPattern.parse (Path.top.join ⟨source⟩).text with
  | error fault =>
    rw [hparse] at hjoin
    cases hbase : Glob.PathPattern.parse (s.base.join ⟨source⟩).text with
    | error fault' => rfl
    | ok pattern' => simp [hbase, Except.toOption] at hjoin
  | ok pattern =>
    obtain ⟨pattern', b, hparse', hb, hcomponents, hexpand⟩ :=
      Glob.exists_expand_mirrors h hnode hplain hsource hne hparse
    rw [hparse']
    refine congrArg some (Found.digest_join_congr ?_)
    rw [List.map_append, List.map_append, List.map_map, List.map_map, isMatched_eq hexpand]
    congr 1
    exact map_eq_of_forall₂ hexpand fun _ _ hhit => digest_ofHit hb hnode hcomponents hhit

theorem ofPath_digest (h : s.tree.Houses s.base node) (hnode : node.isProper = true)
    (hsource : (Path.mk source).IsInward) :
    (s.ofPath (s.base.join ⟨source⟩)).toOption.map Found.digest =
      ((s.alone node).ofPath ((s.alone node).base.join ⟨source⟩)).toOption.map Found.digest := by
  have hmirror := (Mirrors.top s.base).join h.text_ne_empty hsource
  have hfolder : s.tree.isFolder (s.base.join ⟨source⟩) =
      (s.alone node).tree.isFolder ((s.alone node).base.join ⟨source⟩) := h.isFolder_eq hmirror
  have hfile : s.tree.isFile (s.base.join ⟨source⟩) =
      (s.alone node).tree.isFile ((s.alone node).base.join ⟨source⟩) := h.isFile_eq hmirror
  rw [ofPath, ofPath, ← hfolder, ← hfile]
  split
  case isTrue hisFolder =>
    exact congrArg some (digest_ofFolder h hnode rfl hmirror hisFolder)
  case isFalse =>
    split
    · rw [nameOf_eq h.text_ne_empty rfl hmirror]
      rfl
    · rfl

/-- **A source stands for the same files** as in the tree that holds the base
    directory alone. -/
theorem ofSource_digest (h : s.tree.Houses s.base node) (hnode : node.isProper = true)
    (hsource : (Path.mk source).IsInward)
    (hpattern : Glob.isPattern source = true →
      Glob.isPattern s.base.text = false ∧ Glob.StaysBelow ⟨source⟩) :
    (s.ofSource source).toOption.map Found.digest =
      ((s.alone node).ofSource source).toOption.map Found.digest := by
  rw [ofSource, ofSource]
  split
  case isTrue hisPattern =>
    obtain ⟨hplain, hbelow⟩ := hpattern hisPattern
    refine ofPattern_digest h hnode hplain hbelow ?_
    rintro rfl
    exact absurd hisPattern (by decide)
  case isFalse => exact ofPath_digest h hnode hsource

end

end Scanner

/-! ## All sources -/

variable {t t' : FileTree} {base base' : Path} {node : Node}

/-- **A base directory is scanned like the tree that holds it alone.** -/
theorem scanSources_alone (ht : t.WellFormed) (h : t.Houses base node)
    {sources : List String} (hsources : ∀ source ∈ sources, (Path.mk source).IsInward)
    (hpatterns : ∀ source ∈ sources, Glob.isPattern source = true →
      Glob.isPattern base.text = false ∧ Glob.StaysBelow ⟨source⟩)
    (ignores : List String) (extensions : ExtensionMap) (verbose : Bool) :
    (scanSources t base sources ignores extensions verbose).result.toOption =
      (scanSources node.alone .top sources ignores extensions verbose).result.toOption := by
  have hnode := ht.isProper_of_resolve h.resolve
  rw [scanSources_result, scanSources_result]
  cases readIgnores ignores with
  | error e => rfl
  | ok patterns =>
    have hfounds := mapM_map_toOption fun source hmem =>
      Scanner.ofSource_digest (s := ⟨t, base, patterns, extensions⟩) h hnode
        (hsources source hmem) (hpatterns source hmem)
    have hgather : ∀ x : Except RunError (List Found),
        (x.map (Scan.gather ⟨[], 0⟩)).toOption =
          (x.toOption.map (List.map Found.digest)).map
            (List.foldl (fun scan d => ⟨Scan.addFiles scan.files d.1, scan.skipped + d.2⟩)
              ⟨[], 0⟩) := by
      intro x
      cases x with
      | error e => rfl
      | ok founds => exact congrArg some (Scan.gather_eq _ founds)
    exact (hgather _).trans ((congrArg _ hfounds).trans (hgather _).symm)

/-- **Scans depend on nothing outside of their base directory.**  Two base
    directories that hold the same entries, no links among them, and are written
    without dots, are scanned with the same files and the same number of skips,
    or both scans fail, if all sources are relative and have no two dots.  A
    pattern asks for more: its base directories must have no wildcards, which it
    would take for its own, and none of its parts may take the two dots, as `.*`
    does. -/
theorem scanSources_eq_of_houses (ht : t.WellFormed) (ht' : t'.WellFormed)
    (h : t.Houses base node) (h' : t'.Houses base' node) {sources : List String}
    (hsources : ∀ source ∈ sources, (Path.mk source).IsInward)
    (hpatterns : ∀ source ∈ sources, Glob.isPattern source = true →
      Glob.isPattern base.text = false ∧ Glob.isPattern base'.text = false ∧
        Glob.StaysBelow ⟨source⟩)
    (ignores : List String) (extensions : ExtensionMap) (verbose : Bool) :
    (scanSources t base sources ignores extensions verbose).result.toOption =
      (scanSources t' base' sources ignores extensions verbose).result.toOption := by
  have hleft := scanSources_alone ht h hsources
    (fun source hmem hpattern =>
      ⟨(hpatterns source hmem hpattern).1, (hpatterns source hmem hpattern).2.2⟩)
    ignores extensions verbose
  have hright := scanSources_alone ht' h' hsources
    (fun source hmem hpattern => (hpatterns source hmem hpattern).2) ignores extensions verbose
  exact hleft.trans hright.symm

/-! ## Three directories -/

/-- A project with the file `a.js` in the directories `[x]`, `y` and `z`. -/
def tripletTree : FileTree where
  root := .folder true
    [("project", .folder true
      [("[x]", .folder true [("a.js", .file .empty)]),
       ("y", .folder true [("a.js", .file .empty)]),
       ("z", .folder true [("a.js", .file .empty)])])]
  workingDir := ["project"]

theorem tripletTree_wellFormed : tripletTree.WellFormed :=
  ⟨by decide, by decide, ⟨_, rfl, rfl⟩⟩

theorem tripletTree_locate (purpose : Purpose) :
    tripletTree.locate purpose ⟨"."⟩ = .ok ["project"] ∧
      tripletTree.locate purpose ⟨"[x]"⟩ = .ok ["project", "[x]"] ∧
      tripletTree.locate purpose ⟨"y"⟩ = .ok ["project", "y"] ∧
      tripletTree.locate purpose ⟨"z"⟩ = .ok ["project", "z"] ∧
      tripletTree.locate purpose ⟨"y/a.js"⟩ = .ok ["project", "y", "a.js"] := by
  refine ⟨?_, ?_, ?_, ?_, ?_⟩ <;>
    simp [FileTree.locate, Path.moves, splitSlash, Move.ofPart?, Path.endsInSlash, Path.isAbsolute,
      tripletTree, FileTree.follow, Node.at?, Node.child?, Entries.find?, List.lookup_cons]

theorem tripletTree_houses :
    tripletTree.Houses ⟨"[x]"⟩ (.folder true [("a.js", .file .empty)]) ∧
      tripletTree.Houses ⟨"y"⟩ (.folder true [("a.js", .file .empty)]) ∧
      tripletTree.Houses ⟨"z"⟩ (.folder true [("a.js", .file .empty)]) := by
  obtain ⟨-, hx, hy, hz, -⟩ := tripletTree_locate .inspect
  refine ⟨⟨?_, rfl, by decide, ?_⟩, ⟨?_, rfl, by decide, ?_⟩, ⟨?_, rfl, by decide, ?_⟩⟩
  · exact FileTree.resolve_eq_ok_iff.2 ⟨_, hx, rfl⟩
  · unfold Path.IsPlain; decide
  · exact FileTree.resolve_eq_ok_iff.2 ⟨_, hy, rfl⟩
  · unfold Path.IsPlain; decide
  · exact FileTree.resolve_eq_ok_iff.2 ⟨_, hz, rfl⟩
  · unfold Path.IsPlain; decide

theorem tripletTree_isFolder :
    tripletTree.isFolder ⟨"."⟩ = true ∧ tripletTree.isFolder ⟨"y"⟩ = true ∧
      tripletTree.isFolder ⟨"y/a.js"⟩ = false := by
  obtain ⟨hdot, -, hy, -, hfile⟩ := tripletTree_locate .inspect
  simp only [FileTree.isFolder, FileTree.resolve, hdot, hy, hfile]
  decide

theorem tripletTree_expandFrom_y (fuel : Nat) :
    Glob.expandFrom tripletTree false (fuel + 2) ["y".toList.map .literal, scriptPattern] ⟨"."⟩ =
      [.path ⟨"y/a.js"⟩] := by
  have hentry : tripletTree.hasEntry ⟨"y"⟩ = true := by
    rw [FileTree.hasEntry, (tripletTree_locate .entry).2.2.1]
    rfl
  have hlist : tripletTree.list ⟨"y"⟩ = .ok [("a.js", .file .empty)] := by
    rw [FileTree.list, tripletTree_houses.2.1.resolve]
    rfl
  have hy : Glob.within ⟨"."⟩ "y" = ⟨"y"⟩ := by decide
  have hfile : Glob.within ⟨"y"⟩ "a.js" = ⟨"y/a.js"⟩ := by decide
  have hmatch : scriptPattern.isMatch "a.js" = true := by decide
  have hdots : scriptPattern.head? ≠ some (.literal '.') := by decide
  have hplain : scriptPattern.isRecursive = false := by decide
  rw [Glob.expandFrom_literal (by simp) (by decide) (by rwa [String.ofList_toList, hy]),
    String.ofList_toList, hy, Glob.expandFrom, show scriptPattern.literalText? = none by decide]
  simp [Glob.expandFolder, tripletTree_isFolder, hlist, hdots, Glob.compareEntry, hplain,
    Glob.compareName, hfile, hmatch, Glob.advance]

theorem tripletTree_scan_y :
    (scanSources tripletTree ⟨"y"⟩ ["*.js"] [] .default false).result = .ok ⟨["a.js"], 0⟩ := by
  have hparse : Glob.PathPattern.parse (Path.join ⟨"y"⟩ ⟨"*.js"⟩).text =
      .ok ⟨⟨"."⟩, ["y".toList.map .literal, scriptPattern], false⟩ := by
    rw [show Path.join ⟨"y"⟩ ⟨"*.js"⟩ = ⟨"y/*.js"⟩ by decide]
    simp [Glob.PathPattern.parse, Glob.Pattern.parse, Glob.readTokens, splitSlash,
      Path.isAbsolute, Path.endsInSlash, scriptPattern, bind, Except.bind, pure, Except.pure]
  exact scanSources_of_expand .default (by decide) hparse (tripletTree_expandFrom_y _)
    tripletTree_isFolder.2.2

theorem tripletTree_expandFrom_x (fuel : Nat) :
    Glob.expandFrom tripletTree false (fuel + 1) [[.oneOf [('x', 'x')]], scriptPattern] ⟨"."⟩ =
      [] := by
  have hlist : tripletTree.list ⟨"."⟩ = .ok
      [("[x]", .folder true [("a.js", .file .empty)]),
       ("y", .folder true [("a.js", .file .empty)]),
       ("z", .folder true [("a.js", .file .empty)])] := by
    have hdot := FileTree.resolve_eq_ok_iff.2 ⟨_, (tripletTree_locate .inspect).1, rfl⟩
    rw [FileTree.list, hdot]
    rfl
  have hmatch : ∀ name ∈ ["[x]", "y", "z"],
      Glob.Pattern.isMatch [.oneOf [('x', 'x')]] name = false := by decide
  rw [Glob.expandFrom, show Glob.Pattern.literalText? [.oneOf [('x', 'x')]] = none by decide]
  simp [Glob.expandFolder, tripletTree_isFolder, hlist, Glob.compareEntry, Glob.Pattern.isRecursive,
    Glob.compareName, hmatch]

/-- As a pattern, `[x]` stands for `x` only. -/
theorem tripletTree_scan_x :
    (scanSources tripletTree ⟨"[x]"⟩ ["*.js"] [] .default false).result = .ok ⟨[], 0⟩ := by
  have hclass : ∀ after, Glob.readTokens 0 true ('[' :: 'x' :: ']' :: after) =
      Glob.readTokens 3 false after >>= fun tokens => pure (.oneOf [('x', 'x')] :: tokens) := by
    intro after
    have hread : Glob.readClass ('x' :: ']' :: after) = some (.oneOf [('x', 'x')], after) := rfl
    rw [Glob.readTokens_class hread, List.length_cons, List.length_cons,
      show 0 + 1 + (after.length + 1 + 1 - after.length) = 3 by omega]
  have hwhole : Glob.Pattern.parse "[x]/*.js" =
      .ok (.oneOf [('x', 'x')] :: .literal '/' :: scriptPattern) := by
    rw [Glob.Pattern.parse, show "[x]/*.js".toList = '[' :: 'x' :: ']' :: "/*.js".toList by decide,
      hclass]
    simp [Glob.readTokens, scriptPattern, bind, Except.bind, pure, Except.pure]
  have hparse : Glob.PathPattern.parse (Path.join ⟨"[x]"⟩ ⟨"*.js"⟩).text =
      .ok ⟨⟨"."⟩, [[.oneOf [('x', 'x')]], scriptPattern], false⟩ := by
    rw [show Path.join ⟨"[x]"⟩ ⟨"*.js"⟩ = ⟨"[x]/*.js"⟩ by decide, Glob.PathPattern.parse_eq, hwhole,
      show Glob.wantedParts (Glob.bodyParts ⟨"[x]/*.js"⟩) = ["[x]".toList, "*.js".toList] by decide,
      List.mapM_cons, show "[x]".toList = ['[', 'x', ']'] by decide, hclass]
    simp [Glob.readTokens, Path.isAbsolute, Path.endsInSlash, scriptPattern, bind, Except.bind,
      pure, Except.pure, Except.map]
  have hexpand : Glob.PathPattern.expand
      ⟨⟨"."⟩, [[.oneOf [('x', 'x')]], scriptPattern], false⟩ tripletTree = [] :=
    tripletTree_expandFrom_x _
  have hfound : Scanner.ofSource ⟨tripletTree, ⟨"[x]"⟩, [], .default⟩ "*.js" =
      .ok ⟨[], [.noMatch "*.js"]⟩ := by
    rw [Scanner.ofSource, if_pos (by decide), Scanner.ofPattern, hparse]
    simp [Except.mapError, bind, Except.bind, pure, Except.pure, hexpand, Scanner.isMatched,
      Found.join, Found.notice]
  have hfounds : ["*.js"].mapM (Scanner.ofSource ⟨tripletTree, ⟨"[x]"⟩, [], .default⟩) =
      .ok [⟨[], [.noMatch "*.js"]⟩] := by
    rw [List.mapM_cons, hfound]
    rfl
  exact scanSources_of_founds rfl hfounds

theorem isInward_scripts : (Path.mk "*.js").IsInward := ⟨by decide, by decide⟩

/-- The directories `y` and `z` are scanned with the same result. -/
theorem tripletTree_scan_eq :
    tripletTree.WellFormed ∧
      (scanSources tripletTree ⟨"z"⟩ ["*.js"] [] .default false).result.toOption =
        some ⟨["a.js"], 0⟩ := by
  obtain ⟨-, hy, hz⟩ := tripletTree_houses
  have hinside : Glob.StaysBelow ⟨"*.js"⟩ := by
    refine ⟨isInward_scripts, fun part hpart pattern hread hhead => ?_⟩
    obtain rfl : part = "*.js".toList := by simpa [Path.written, splitSlash] using hpart
    have hscripts : Glob.readTokens 0 true "*.js".toList = .ok scriptPattern := by
      simp [Glob.readTokens, scriptPattern, bind, Except.bind, pure, Except.pure]
    rw [hscripts] at hread
    cases hread
    simp [scriptPattern] at hhead
  refine ⟨tripletTree_wellFormed, ?_⟩
  rw [scanSources_eq_of_houses tripletTree_wellFormed tripletTree_wellFormed hz hy
    (by simpa using isInward_scripts) (by simpa using fun _ => ⟨by decide, by decide, hinside⟩) []
    .default false, tripletTree_scan_y]
  rfl

/-- The directory `[x]` holds the same as `y`, but is scanned with another
    result. -/
theorem tripletTree_scans_differ :
    tripletTree.WellFormed ∧ (Path.mk "*.js").IsInward ∧
      (∃ node, tripletTree.Houses ⟨"y"⟩ node ∧ tripletTree.Houses ⟨"[x]"⟩ node) ∧
      (scanSources tripletTree ⟨"y"⟩ ["*.js"] [] .default false).result = .ok ⟨["a.js"], 0⟩ ∧
      (scanSources tripletTree ⟨"[x]"⟩ ["*.js"] [] .default false).result = .ok ⟨[], 0⟩ :=
  ⟨tripletTree_wellFormed, isInward_scripts, ⟨_, tripletTree_houses.2.1, tripletTree_houses.1⟩,
    tripletTree_scan_y, tripletTree_scan_x⟩

end PotCatalog
