/-
  Files that are found are the files that are opened.

  A scan lists names below a base directory, and a catalog is built by joining
  them with the base again.

  `scanSources_opens`: what is opened is what was found exactly if the path
  that was found does not stray from the base.  Only matches of a relative
  pattern can stray; if the base has no wildcards, they stray exactly if the
  base is written as a dot and something behind it.
-/
import PotCatalog.Build
import PotCatalog.Proofs.Scan.Sources

namespace PotCatalog

/-! ## Names that end in a step -/

theorem Component.IsInner.isIdlePart_eq {c : Component} (h : c.IsInner) :
    isIdlePart c.text.toList = false := by
  rw [Bool.eq_false_iff]
  intro hidle
  have hpart := h.1
  rw [Component.ofPart?, if_pos hidle] at hpart
  exact absurd hpart (by simp)

theorem Path.endsInStep_render {steps : List Component} {c : Component}
    (h : Component.AreSteps (steps ++ [c])) (hc : c ≠ .root) :
    (Path.mk (Component.render (steps ++ [c]))).EndsInStep := by
  obtain ⟨inner, hinner, rfl | hroot⟩ := h
  · refine ⟨steps.map fun d => d.text.toList, c.text.toList, ?_, ?_⟩
    · rw [Component.render_of_isInner hinner, splitSlash_intercalate hinner (by simp), List.map_append]
      rfl
    · exact (hinner c (by simp)).isIdlePart_eq
  · cases steps with
    | nil => exact absurd (List.cons.inj hroot).1 hc
    | cons d steps =>
      rw [List.cons_append] at hroot
      obtain ⟨rfl, rfl⟩ := List.cons.inj hroot
      refine ⟨[] :: steps.map fun d => d.text.toList, c.text.toList, ?_, ?_⟩
      · rw [List.cons_append, Component.toList_render_root, splitSlash_slash,
          splitSlash_intercalate hinner (by simp), List.map_append]
        rfl
      · exact (hinner c (by simp)).isIdlePart_eq

namespace FileTree

variable {t : FileTree} {base p : Path}

/-- A directory to scan from: the empty path stands for the working
    directory. -/
def IsBase (t : FileTree) (base : Path) : Prop := base.text = "" ∨ t.isFolder base = true

theorem reaches_nil_iff {names : List String} : t.Reaches [] names ↔ names = t.workingDir := by
  constructor
  · intro h
    exact h.unique .done
  · rintro rfl
    exact .done

theorem steps_ne_base (ht : t.WellFormed) (hbase : t.IsBase base) (hp : t.isFile p = true) :
    p.steps ≠ base.steps := by
  intro hsteps
  obtain ⟨names, content, hlocate, hat⟩ := isFile_iff.1 hp
  have hreach := reaches_of_locate hlocate
  rw [hsteps] at hreach
  rcases hbase with hempty | hfolder
  · rw [show base = ⟨""⟩ from congrArg Path.mk hempty] at hreach
    obtain ⟨node, hnode, hfolder⟩ := ht.workingDir
    rw [← reaches_nil_iff.1 hreach, hat] at hnode
    cases hnode
    simp [Node.isFolder] at hfolder
  · obtain ⟨names', isOpen, entries, hlocate', hat'⟩ := isFolder_iff.1 hfolder
    rw [hreach.unique (reaches_of_locate hlocate'), hat'] at hat
    simp at hat

theorem steps_ne_root (ht : t.WellFormed) (hp : t.isFile p = true) : p.steps ≠ [.root] := by
  intro hsteps
  obtain ⟨names, content, hlocate, hat⟩ := isFile_iff.1 hp
  have hreach := reaches_of_locate hlocate
  rw [hsteps] at hreach
  rw [hreach.unique .done] at hat
  have hroot := ht.root
  rw [Option.some.inj hat] at hroot
  simp [Node.isFolder] at hroot

theorem endsInStep_join_displayPath (ht : t.WellFormed) (hbase : t.IsBase base)
    (hp : t.isFile p = true) (h : ¬ base.Strays p) :
    (base.join ⟨displayPath base p⟩).EndsInStep := by
  obtain ⟨before, rest, hsteps, hname, -⟩ := Path.exists_displayPath_eq base p
  have hrest := Path.steps_displayPath hsteps hname
  have hareSteps : Component.AreSteps (before ++ rest) := hsteps ▸ p.areSteps_steps
  rcases List.eq_nil_or_concat rest with rfl | ⟨init, c, rfl⟩
  · -- the name is empty, and the path is the base itself
    have hrel : (Path.mk (displayPath base p)).isAbsolute = false := by
      rw [Bool.eq_false_iff, Ne, Path.isAbsolute_iff_root_mem_steps, hrest]
      simp
    have hjoin := Path.steps_join_displayPath h
    rw [Path.steps_join hrel, hrest, List.append_nil] at hjoin
    exact absurd hjoin.symm (steps_ne_base ht hbase hp)
  · rw [List.concat_eq_append] at *
    by_cases hc : c = .root
    · subst hc
      rw [← List.append_assoc] at hsteps hareSteps
      have hnil := hareSteps.eq_nil_of_root_mem (by simp)
      rw [hnil] at hsteps
      exact absurd hsteps (steps_ne_root ht hp)
    · rw [hname]
      exact (Path.endsInStep_render hareSteps.of_append hc).join

/-! ## Opening what was found -/

/-- What is opened under the name of a path is what the path leads to. -/
structure Opens (t : FileTree) (base p : Path) : Prop where
  steps_eq : (base.join ⟨displayPath base p⟩).steps = p.steps
  locate_eq : t.isFile p = true →
    t.locate .inspect (base.join ⟨displayPath base p⟩) = t.locate .inspect p
  /-- A file that can be read is read. -/
  runJob_eq : ∀ kind source, t.read p = .ok source →
    runJob t base ⟨displayPath base p, kind⟩ = extract kind (displayPath base p) source

theorem isFile_of_read {source : String} (h : t.read p = .ok source) : t.isFile p = true := by
  obtain ⟨node, hnode, h⟩ := bind_eq_ok.1 h
  rw [isFile, hnode]
  cases node with
  | file => rfl
  | link | folder => cases h

/-- **What is opened is what was found,** exactly if the path that was found
    does not stray from the base directory. -/
theorem opens_iff (ht : t.WellFormed) (hbase : t.IsBase base) :
    t.Opens base p ↔ ¬ base.Strays p := by
  constructor
  · intro h
    exact Path.steps_join_displayPath_iff.1 h.steps_eq
  · intro h
    have hsteps := Path.steps_join_displayPath h
    have hlocate : t.isFile p = true →
        t.locate .inspect (base.join ⟨displayPath base p⟩) = t.locate .inspect p := by
      intro hp
      obtain ⟨names, content, hnames, -⟩ := isFile_iff.1 hp
      have hreach := reaches_of_locate hnames
      rw [← hsteps] at hreach
      rw [hnames]
      exact hreach.locate (endsInStep_join_displayPath ht hbase hp h)
    refine ⟨hsteps, hlocate, ?_⟩
    intro kind source hread
    have hread' : t.read (base.join ⟨displayPath base p⟩) = .ok source := by
      rw [read, resolve, hlocate (isFile_of_read hread)]
      exact hread
    unfold runJob
    rw [hread']

/-! ## Which paths stray -/

section
variable {source : String}

theorem Finds.isFile_or (ht : t.WellFormed) (h : t.Finds base source p) :
    t.isFile p = true ∨ Glob.isPattern source = true ∧ t.pathExists p = false := by
  cases h with
  | named _ hfile => exact Or.inl hfile
  | walked _ hfolder hwalk => exact Or.inl (walk_spec ht hfolder hwalk).1
  | walkedMatch _ _ _ hfolder hwalk => exact Or.inl (walk_spec ht hfolder hwalk).1
  | matched hsource _ _ hfolder =>
    rw [isFile, pathExists, isFolder] at *
    cases hr : t.resolve p with
    | error e => exact Or.inr ⟨hsource, rfl⟩
    | ok node =>
      left
      cases node with
      | file => rfl
      | folder => simp [hr, Node.isFolder] at hfolder
      | link target =>
        obtain ⟨names, hlocate, hat⟩ := resolve_eq_ok_iff.1 hr
        exact absurd hat (ht.at?_ne_link hlocate target)

theorem Finds.isAbsolute_eq (ht : t.WellFormed) (h : t.Finds base source p) :
    p.isAbsolute = (base.join ⟨source⟩).isAbsolute := by
  cases h with
  | named => rfl
  | walked _ hfolder hwalk => exact (walk_spec ht hfolder hwalk).2.2
  | matched _ hparse hmatch _ => exact Glob.PathPattern.isAbsolute_of_mem_expand ht hparse hmatch
  | walkedMatch _ hparse hmatch hfolder hwalk =>
    rw [(walk_spec ht hfolder hwalk).2.2]
    exact Glob.PathPattern.isAbsolute_of_mem_expand ht hparse hmatch

/-- Only what a relative pattern leads to strays, and only from a relative
    base directory. -/
theorem Finds.relative_of_strays (ht : t.WellFormed) (h : t.Finds base source p)
    (hstrays : base.Strays p) :
    Glob.isPattern source = true ∧ (Path.mk source).isAbsolute = false ∧
      base.isAbsolute = false := by
  obtain ⟨hrel, -, hnot⟩ := hstrays
  rw [h.isAbsolute_eq ht] at hrel
  have hsource : (Path.mk source).isAbsolute = false := by
    rw [Bool.eq_false_iff]
    intro habs
    rw [Path.join_of_isAbsolute habs, habs] at hrel
    exact absurd hrel (by simp)
  have hbelow : base.components <+: (base.join ⟨source⟩).components :=
    Path.components_prefix_join hsource
  refine ⟨?_, hsource, (Path.isAbsolute_join hsource).symm.trans hrel⟩
  cases h with
  | named => exact absurd hbelow hnot
  | walked _ hfolder hwalk => exact absurd (hbelow.trans (walk_spec ht hfolder hwalk).2.1) hnot
  | matched hpattern => exact hpattern
  | walkedMatch hpattern => exact hpattern

theorem Finds.starts_with_base (ht : t.WellFormed) (h : t.Finds base source p)
    (hpattern : Glob.isPattern source = true) (hbase : base.isAbsolute = false)
    (hplain : Glob.isPattern base.text = false) (hsteps : base.steps ≠ [])
    (hsource : (Path.mk source).isAbsolute = false) : base.steps <+: p.components := by
  cases h with
  | named hnot | walked hnot => simp [hpattern] at hnot
  | matched _ hparse hmatch =>
    exact Glob.PathPattern.steps_prefix_of_mem_expand ht hbase hplain hsteps hsource hparse hmatch
  | walkedMatch _ hparse hmatch hfolder hwalk =>
    exact (Glob.PathPattern.steps_prefix_of_mem_expand ht hbase hplain hsteps hsource hparse
      hmatch).trans (walk_spec ht hfolder hwalk).2.1

/-- From a base directory without wildcards, a path strays exactly if a
    relative pattern leads to it and the base is a dot with steps behind it. -/
theorem Finds.strays_iff (ht : t.WellFormed) (hplain : Glob.isPattern base.text = false)
    (h : t.Finds base source p) :
    base.Strays p ↔
      base.startsAtDot = true ∧ base.steps ≠ [] ∧
        Glob.isPattern source = true ∧ (Path.mk source).isAbsolute = false := by
  constructor
  · intro hstrays
    obtain ⟨hpattern, hsource, hbase⟩ := h.relative_of_strays ht hstrays
    obtain ⟨-, hsteps, hnot⟩ := hstrays
    refine ⟨?_, hsteps, hpattern, hsource⟩
    by_contra hdot
    rw [Path.components_eq_steps, if_neg hdot] at hnot
    exact hnot (h.starts_with_base ht hpattern hbase hplain hsteps hsource)
  · rintro ⟨hdot, hsteps, hpattern, hsource⟩
    obtain ⟨parts, hparts⟩ := (Path.startsAtDot_iff base).1 hdot
    have hbase : base.isAbsolute = false := by
      rw [Bool.eq_false_iff, Ne, Path.isAbsolute_iff, hparts]
      simp
    refine ⟨?_, hsteps, ?_⟩
    · rw [h.isAbsolute_eq ht, Path.isAbsolute_join hsource, hbase]
    · intro hbelow
      rw [Path.components_eq_steps, if_pos hdot] at hbelow
      obtain ⟨c, cs, hcs⟩ := List.exists_cons_of_ne_nil hsteps
      obtain ⟨rest, hrest⟩ := hbelow
      obtain ⟨rest', hrest'⟩ := h.starts_with_base ht hpattern hbase hplain hsteps hsource
      have hcurrent : c = .current := by
        rw [← hrest, hcs] at hrest'
        exact (List.cons.inj hrest').1
      have hmem : c ∈ base.steps := hcs ▸ List.mem_cons_self ..
      simp [Path.steps, hcurrent] at hmem

end

end FileTree

/-- **Every scanned file is the file that is later read.**  A file of a scan is
    the name of a path that a source leads to, which is a file or a match that
    leads nowhere.  Opening the name opens that path exactly if it does not
    stray from the base directory; else it is looked for behind the steps of the
    base.  Only what a relative pattern leads to can stray, and only from a
    relative base; if the base has no wildcards, it does so exactly if the base
    is a dot with steps behind it. -/
theorem scanSources_opens {t : FileTree} {base : Path} (ht : t.WellFormed) (hbase : t.IsBase base)
    {sources ignores : List String} {extensions : ExtensionMap} {verbose : Bool} {scan : Scan}
    (hscan : (scanSources t base sources ignores extensions verbose).result = .ok scan) :
    (∀ f ∈ scan.files, ∃ source ∈ sources, ∃ p, t.Finds base source p ∧ f = displayPath base p) ∧
    ∀ source p, t.Finds base source p →
      (t.isFile p = true ∨ Glob.isPattern source = true ∧ t.pathExists p = false) ∧
      (t.Opens base p ↔ ¬ base.Strays p) ∧
      (base.Strays p →
        (base.join ⟨displayPath base p⟩).steps = base.steps ++ p.steps ∧
        Glob.isPattern source = true ∧ (Path.mk source).isAbsolute = false ∧
        base.isAbsolute = false) ∧
      (Glob.isPattern base.text = false →
        (base.Strays p ↔ base.startsAtDot = true ∧ base.steps ≠ [] ∧
          Glob.isPattern source = true ∧ (Path.mk source).isAbsolute = false)) := by
  refine ⟨fun f hf => exists_finds_of_mem_files hscan hf, fun source p h => ?_⟩
  refine ⟨h.isFile_or ht, FileTree.opens_iff ht hbase, ?_, fun hplain => h.strays_iff ht hplain⟩
  intro hstrays
  exact ⟨hstrays.steps_join_displayPath, h.relative_of_strays ht hstrays⟩

/-! ## A small tree -/

/-- A project with one file, `sub/a.js`. -/
def smallTree : FileTree where
  root := .folder true
    [("project", .folder true [("sub", .folder true [("a.js", .file .empty)])])]
  workingDir := ["project"]

/-- The pattern `*.js`. -/
def scriptPattern : Glob.Pattern := [.anyRun, .literal '.', .literal 'j', .literal 's']

theorem smallTree_wellFormed : smallTree.WellFormed :=
  ⟨by decide, by decide, ⟨_, rfl, rfl⟩⟩

theorem smallTree_locate (purpose : Purpose) :
    smallTree.locate purpose ⟨"."⟩ = .ok ["project"] ∧
      smallTree.locate purpose ⟨"sub"⟩ = .ok ["project", "sub"] ∧
      smallTree.locate purpose ⟨"./sub"⟩ = .ok ["project", "sub"] ∧
      smallTree.locate purpose ⟨"sub/a.js"⟩ = .ok ["project", "sub", "a.js"] ∧
      smallTree.locate purpose ⟨"./sub/sub/a.js"⟩ = .error .notFound := by
  refine ⟨?_, ?_, ?_, ?_, ?_⟩ <;>
    simp [FileTree.locate, Path.moves, splitSlash, Move.ofPart?, Path.endsInSlash, Path.isAbsolute,
      smallTree, FileTree.follow, Node.at?, Node.child?, Entries.find?, List.lookup_cons]

theorem smallTree_isFolder :
    smallTree.isFolder ⟨"."⟩ = true ∧ smallTree.isFolder ⟨"sub"⟩ = true ∧
      smallTree.isFolder ⟨"sub/a.js"⟩ = false := by
  obtain ⟨hdot, hsub, -, hfile, -⟩ := smallTree_locate .inspect
  simp only [FileTree.isFolder, FileTree.resolve, hdot, hsub, hfile]
  decide

/-- From the working directory, `sub/*.js` leads to the file. -/
theorem smallTree_expandFrom (fuel : Nat) :
    Glob.expandFrom smallTree false (fuel + 2) ["sub".toList.map .literal, scriptPattern] ⟨"."⟩ =
      [.path ⟨"sub/a.js"⟩] := by
  have hentry : smallTree.hasEntry ⟨"sub"⟩ = true := by
    rw [FileTree.hasEntry, (smallTree_locate .entry).2.1]
    rfl
  have hlist : smallTree.list ⟨"sub"⟩ = .ok [("a.js", .file .empty)] := by
    rw [FileTree.list, FileTree.resolve, (smallTree_locate .inspect).2.1]
    rfl
  have hsub : Glob.within ⟨"."⟩ "sub" = ⟨"sub"⟩ := by decide
  have hfile : Glob.within ⟨"sub"⟩ "a.js" = ⟨"sub/a.js"⟩ := by decide
  have hmatch : scriptPattern.isMatch "a.js" = true := by decide
  rw [Glob.expandFrom, Glob.literalText?_map_literal]
  simp only [Glob.expandLiteral, String.ofList_toList, hsub, hentry, Glob.advance]
  rw [if_pos (by decide), Glob.expandFrom, show scriptPattern.literalText? = none by decide]
  have hdots : scriptPattern.head? ≠ some (.literal '.') := by decide
  have hplain : scriptPattern.isRecursive = false := by decide
  simp [Glob.expandFolder, smallTree_isFolder, hlist, hdots, Glob.compareEntry, hplain,
    Glob.compareName, hfile, hmatch, Glob.advance]

/-- A pattern with one match that is no directory makes a scan of one file. -/
theorem scanSources_of_expand {t : FileTree} {base p : Path} {source : String}
    {pattern : Glob.PathPattern} (extensions : ExtensionMap)
    (hsource : Glob.isPattern source = true)
    (hparse : Glob.PathPattern.parse (base.join ⟨source⟩).text = .ok pattern)
    (hexpand : pattern.expand t = [.path p]) (hfolder : t.isFolder p = false) :
    (scanSources t base [source] [] extensions false).result =
      .ok ⟨[displayPath base p], 0⟩ := by
  have hfound : Scanner.ofSource ⟨t, base, [], extensions⟩ source =
      .ok ⟨[displayPath base p], []⟩ := by
    rw [Scanner.ofSource, if_pos hsource, Scanner.ofPattern, hparse]
    simp [Except.mapError, bind, Except.bind, pure, Except.pure, hexpand, Scanner.ofHit, hfolder,
      Scanner.isIgnored, Scanner.nameOf, Scanner.isMatched, Found.join, Found.file]
  rw [scanSources, Logged.bind_result_eq_ok]
  refine ⟨[], rfl, ?_⟩
  rw [Scanner.scanFrom, Logged.bind_result_eq_ok]
  exact ⟨_, hfound, rfl⟩

theorem smallTree_expand_sub :
    ∃ pattern, Glob.PathPattern.parse (Path.join ⟨"sub"⟩ ⟨"*.js"⟩).text = .ok pattern ∧
      pattern.expand smallTree = [.path ⟨"sub/a.js"⟩] := by
  refine ⟨⟨⟨"."⟩, ["sub".toList.map .literal, scriptPattern], false⟩, ?_, smallTree_expandFrom _⟩
  rw [show Path.join ⟨"sub"⟩ ⟨"*.js"⟩ = ⟨"sub/*.js"⟩ by decide]
  simp [Glob.PathPattern.parse, Glob.Pattern.parse, Glob.readTokens, splitSlash,
    Path.isAbsolute, Path.endsInSlash, scriptPattern, bind, Except.bind, pure, Except.pure]

theorem smallTree_expand_dotSub :
    ∃ pattern, Glob.PathPattern.parse (Path.join ⟨"./sub"⟩ ⟨"*.js"⟩).text = .ok pattern ∧
      pattern.expand smallTree = [.path ⟨"sub/a.js"⟩] := by
  have hdot : ∀ fuel, Glob.expandFrom smallTree false (fuel + 3)
      [".".toList.map .literal, "sub".toList.map .literal, scriptPattern] ⟨"."⟩ =
        [.path ⟨"sub/a.js"⟩] := by
    intro fuel
    rw [Glob.expandFrom, Glob.literalText?_map_literal]
    simp only [Glob.expandLiteral, String.ofList_toList, smallTree_isFolder.1, Glob.advance]
    rw [if_pos (by decide)]
    exact smallTree_expandFrom fuel
  refine ⟨⟨⟨"."⟩, [".".toList.map .literal, "sub".toList.map .literal, scriptPattern], false⟩, ?_,
    hdot _⟩
  rw [show Path.join ⟨"./sub"⟩ ⟨"*.js"⟩ = ⟨"./sub/*.js"⟩ by decide]
  simp [Glob.PathPattern.parse, Glob.Pattern.parse, Glob.readTokens, splitSlash,
    Path.isAbsolute, Path.endsInSlash, scriptPattern, bind, Except.bind, pure, Except.pure]

theorem smallTree_scan_opens :
    smallTree.WellFormed ∧ smallTree.IsBase ⟨"sub"⟩ ∧
      (scanSources smallTree ⟨"sub"⟩ ["*.js"] [] .default false).result = .ok ⟨["a.js"], 0⟩ ∧
      ∃ p, smallTree.Finds ⟨"sub"⟩ "*.js" p ∧ "a.js" = displayPath ⟨"sub"⟩ p ∧
        smallTree.Opens ⟨"sub"⟩ p := by
  obtain ⟨pattern, hparse, hexpand⟩ := smallTree_expand_sub
  have hbase : smallTree.IsBase ⟨"sub"⟩ := Or.inr smallTree_isFolder.2.1
  have hscan : (scanSources smallTree ⟨"sub"⟩ ["*.js"] [] .default false).result =
      .ok ⟨["a.js"], 0⟩ :=
    scanSources_of_expand .default (by decide) hparse hexpand smallTree_isFolder.2.2
  refine ⟨smallTree_wellFormed, hbase, hscan, ?_⟩
  obtain ⟨hfiles, hfinds⟩ := scanSources_opens smallTree_wellFormed hbase hscan
  obtain ⟨source, hsource, p, hp, hname⟩ := hfiles "a.js" (by simp)
  obtain rfl := List.mem_singleton.1 hsource
  obtain ⟨-, hopens, -, hstrays⟩ := hfinds "*.js" p hp
  refine ⟨p, hp, hname, hopens.2 ?_⟩
  rw [hstrays (by decide)]
  decide

/-- From `./sub`, the name of the file leads into `sub` twice. -/
theorem smallTree_scan_strays :
    smallTree.WellFormed ∧ smallTree.IsBase ⟨"./sub"⟩ ∧
      (scanSources smallTree ⟨"./sub"⟩ ["*.js"] [] .default false).result =
        .ok ⟨["sub/a.js"], 0⟩ ∧
      smallTree.Finds ⟨"./sub"⟩ "*.js" ⟨"sub/a.js"⟩ ∧ smallTree.read ⟨"sub/a.js"⟩ = .ok "" ∧
      smallTree.read (Path.join ⟨"./sub"⟩ ⟨"sub/a.js"⟩) = .error .notFound := by
  obtain ⟨pattern, hparse, hexpand⟩ := smallTree_expand_dotSub
  obtain ⟨-, -, hdotSub, hfile, htwice⟩ := smallTree_locate .inspect
  refine ⟨smallTree_wellFormed, Or.inr ?_, ?_, ?_, ?_, ?_⟩
  · rw [FileTree.isFolder, FileTree.resolve, hdotSub]
    rfl
  · exact scanSources_of_expand .default (by decide) hparse hexpand smallTree_isFolder.2.2
  · exact .matched (by decide) hparse (by simp [hexpand]) smallTree_isFolder.2.2
  · rw [FileTree.read, FileTree.resolve, hfile]
    rfl
  · rw [show Path.join ⟨"./sub"⟩ ⟨"sub/a.js"⟩ = ⟨"./sub/sub/a.js"⟩ by decide, FileTree.read,
      FileTree.resolve, htwice]
    rfl

end PotCatalog
