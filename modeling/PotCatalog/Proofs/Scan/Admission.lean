/-
  Which files a scan admits.

  `FileTree.Admits` says which paths a source admits: the file that it names;
  what it matches and is no directory, unless ignored; and the files with a
  known extension below a directory that it names or matches, unless ignored.

  `scanSources_admits`: a scan lists the names of exactly these paths, and the
  files that a directory adds are in the order of their steps.
-/
import PotCatalog.Proofs.Scan.Gathering
import PotCatalog.Proofs.Scan.WalkOrder

namespace PotCatalog

/-! ## Admission -/

/-- Whether a name is taken by one of some ignores. -/
def IgnoredBy (ignores : List String) (name : String) : Prop :=
  ∃ text ∈ ignores, ∃ pattern, Glob.Pattern.parse text = .ok pattern ∧ pattern.isMatch name = true

namespace FileTree

/-- A source is a pattern and matches a path. -/
def Matches (t : FileTree) (base : Path) (source : String) (p : Path) : Prop :=
  Glob.isPattern source = true ∧
    ∃ pattern, Glob.PathPattern.parse (base.join ⟨source⟩).text = .ok pattern ∧
      .path p ∈ pattern.expand t

/-- A source names a directory or matches it. -/
def StartsAt (t : FileTree) (base : Path) (source : String) (folder : Path) : Prop :=
  t.isFolder folder = true ∧
    (Glob.isPattern source = false ∧ folder = base.join ⟨source⟩ ∨ t.Matches base source folder)

/-- A source admits a path, where names can be ignored. -/
inductive Admits (t : FileTree) (base : Path) (ignored : String → Prop) (extensions : ExtensionMap)
    (source : String) : Path → Prop where
  /-- A file that is named, whatever its extension and whatever is ignored. -/
  | named (hsource : Glob.isPattern source = false)
      (hfile : t.isFile (base.join ⟨source⟩) = true) :
      Admits t base ignored extensions source (base.join ⟨source⟩)
  /-- A match that is no directory, whatever its extension. -/
  | matched {p} (hmatch : t.Matches base source p) (hfolder : t.isFolder p = false)
      (hkept : ¬ ignored (displayPath base p)) : Admits t base ignored extensions source p
  /-- A file below a directory. -/
  | below {folder p} (hstart : t.StartsAt base source folder) (hbelow : t.LiesBelow folder p)
      (hknown : extensions.supports p = true) (hkept : ¬ ignored (displayPath base p)) :
      Admits t base ignored extensions source p

theorem isFolder_of_isFile {t : FileTree} {p : Path} (h : t.isFile p = true) :
    t.isFolder p = false := by
  rw [isFile] at h
  rw [isFolder]
  cases hnode : t.resolve p with
  | error e => rfl
  | ok node =>
    rw [hnode] at h
    cases node with
    | file => rfl
    | link | folder => simp [Node.isFile] at h

end FileTree

/-! ## One source -/

namespace Scanner

variable {s : Scanner} {source f : String} {folder : Path} {found : Found}

/-- Whether a name is ignored by a scanner. -/
def Ignores (s : Scanner) (name : String) : Prop := s.ignores.any (·.isMatch name) = true

/-- What a directory stands for are the files of a walk that are known and not
    ignored. -/
theorem files_ofFolder (s : Scanner) (folder : Path) :
    (s.ofFolder folder).files =
      ((s.tree.walkedFiles folder).filter fun p =>
        s.extensions.supports p && !s.isIgnored p).map s.nameOf := by
  rw [ofFolder, Found.join, FileTree.walkedFiles]
  show ((s.tree.walk folder).map s.ofVisit).flatMap Found.files = _
  induction s.tree.walk folder with
  | nil => rfl
  | cons visit visits ih =>
    rw [List.map_cons, List.flatMap_cons, ih]
    cases visit with
    | blocked q => rfl
    | file q =>
      show _ = ((q :: visits.filterMap Visit.file?).filter _).map s.nameOf
      rw [List.filter_cons, ofVisit]
      split <;> rfl

theorem mem_files_ofFolder_iff (ht : s.tree.WellFormed) :
    f ∈ (s.ofFolder folder).files ↔
      ∃ p, s.tree.LiesBelow folder p ∧ s.extensions.supports p = true ∧
        ¬ s.Ignores (displayPath s.base p) ∧ f = displayPath s.base p := by
  rw [files_ofFolder, List.mem_map]
  refine exists_congr fun p => ?_
  rw [List.mem_filter, FileTree.mem_walkedFiles_iff ht, Bool.and_eq_true, Bool.not_eq_true',
    Bool.eq_false_iff, and_assoc, and_assoc, eq_comm (b := f)]
  rfl

theorem exists_hit_of_mem_ofPattern (h : s.ofPattern source = .ok found) :
    ∃ pattern, Glob.PathPattern.parse (s.base.join ⟨source⟩).text = .ok pattern ∧
      found.files = (pattern.expand s.tree).flatMap fun hit => (s.ofHit hit).files := by
  obtain ⟨pattern, hpattern, h⟩ := bind_eq_ok.1 h
  have hparse : Glob.PathPattern.parse (s.base.join ⟨source⟩).text = .ok pattern := by
    cases hp : Glob.PathPattern.parse (s.base.join ⟨source⟩).text with
    | error fault => simp [hp, Except.mapError] at hpattern
    | ok parsed => simpa [hp, Except.mapError] using hpattern
  refine ⟨pattern, hparse, ?_⟩
  cases h
  -- the notice of a pattern without matches adds no file
  have hnotice : ∀ hits, (if isMatched hits then [] else [Found.notice (.noMatch source)]).flatMap
      Found.files = [] := by
    intro hits
    split <;> rfl
  rw [Found.join]
  show List.flatMap Found.files _ = _
  rw [List.flatMap_append, hnotice, List.append_nil, List.flatMap_map]

theorem mem_files_ofHit_iff {hit : Glob.Hit} :
    f ∈ (s.ofHit hit).files ↔
      ∃ q, hit = .path q ∧
        (s.tree.isFolder q = true ∧ f ∈ (s.ofFolder q).files ∨
          s.tree.isFolder q = false ∧ ¬ s.Ignores (displayPath s.base q) ∧
            f = displayPath s.base q) := by
  cases hit with
  | unreadable q e => simp [ofHit, Found.notice]
  | path q =>
    have hignored : s.isIgnored q = true ↔ s.Ignores (displayPath s.base q) := Iff.rfl
    rw [ofHit]
    split
    case isTrue hfolder => simp [hfolder]
    case isFalse hfolder =>
      split
      case isTrue hignores =>
        have := hignored.1 hignores
        simp [hfolder, Found.nothing, this]
      case isFalse hkept =>
        have := mt hignored.2 hkept
        simp [hfolder, Found.file, this, nameOf]

/-- **The files that a source stands for** are the names of the paths that it
    admits. -/
theorem mem_files_ofSource_iff (ht : s.tree.WellFormed) (h : s.ofSource source = .ok found) :
    f ∈ found.files ↔
      ∃ p, s.tree.Admits s.base s.Ignores s.extensions source p ∧ f = displayPath s.base p := by
  rw [ofSource] at h
  split at h
  case isTrue hsource =>
    obtain ⟨pattern, hparse, hfiles⟩ := exists_hit_of_mem_ofPattern h
    rw [hfiles, List.mem_flatMap]
    constructor
    · rintro ⟨hit, hmem, hf⟩
      obtain ⟨q, rfl, ⟨hfolder, hf⟩ | ⟨hfolder, hkept, rfl⟩⟩ := mem_files_ofHit_iff.1 hf
      · obtain ⟨p, hbelow, hknown, hkept, rfl⟩ := (mem_files_ofFolder_iff ht).1 hf
        exact ⟨p, .below ⟨hfolder, Or.inr ⟨hsource, pattern, hparse, hmem⟩⟩ hbelow hknown hkept, rfl⟩
      · exact ⟨q, .matched ⟨hsource, pattern, hparse, hmem⟩ hfolder hkept, rfl⟩
    · rintro ⟨p, hadmits, rfl⟩
      cases hadmits with
      | named hplain => simp [hsource] at hplain
      | matched hmatch hfolder hkept =>
        obtain ⟨-, parsed, hparsed, hmem⟩ := hmatch
        cases hparse.symm.trans hparsed
        exact ⟨.path p, hmem, mem_files_ofHit_iff.2 ⟨p, rfl, Or.inr ⟨hfolder, hkept, rfl⟩⟩⟩
      | @below folder _ hstart hbelow hknown hkept =>
        obtain ⟨hfolder, ⟨hplain, -⟩ | ⟨-, parsed, hparsed, hmem⟩⟩ := hstart
        · simp [hsource] at hplain
        · cases hparse.symm.trans hparsed
          have hfile := (mem_files_ofFolder_iff ht).2 ⟨p, hbelow, hknown, hkept, rfl⟩
          exact ⟨.path folder, hmem, mem_files_ofHit_iff.2 ⟨folder, rfl, Or.inl ⟨hfolder, hfile⟩⟩⟩
  case isFalse hsource =>
    have hplain : Glob.isPattern source = false := by simpa using hsource
    rw [ofPath] at h
    split at h
    case isTrue hfolder =>
      cases h
      rw [mem_files_ofFolder_iff ht]
      constructor
      · rintro ⟨p, hbelow, hknown, hkept, rfl⟩
        exact ⟨p, .below ⟨hfolder, Or.inl ⟨hplain, rfl⟩⟩ hbelow hknown hkept, rfl⟩
      · rintro ⟨p, hadmits, rfl⟩
        cases hadmits with
        | named _ hfile => simp [FileTree.isFolder_of_isFile hfile] at hfolder
        | matched hmatch => exact absurd hmatch.1 hsource
        | below hstart hbelow hknown hkept =>
          obtain ⟨-, ⟨-, rfl⟩ | hmatch⟩ := hstart
          · exact ⟨p, hbelow, hknown, hkept, rfl⟩
          · exact absurd hmatch.1 hsource
    case isFalse hfolder =>
      split at h
      case isTrue hfile =>
        cases h
        constructor
        · intro hf
          exact ⟨_, .named hplain hfile, List.mem_singleton.1 hf⟩
        · rintro ⟨p, hadmits, rfl⟩
          cases hadmits with
          | named => exact List.mem_singleton.2 rfl
          | matched hmatch => exact absurd hmatch.1 hsource
          | below hstart =>
            obtain ⟨hfolder', ⟨-, rfl⟩ | hmatch⟩ := hstart
            · exact absurd hfolder' hfolder
            · exact absurd hmatch.1 hsource
      case isFalse => cases h

end Scanner

/-! ## All sources -/

theorem isMatch_any_iff_of_readIgnores {ignores : List String} {patterns : List Glob.Pattern}
    (h : readIgnores ignores = .ok patterns) (name : String) :
    patterns.any (·.isMatch name) = true ↔ IgnoredBy ignores name := by
  have hread : ∀ text pattern, (Glob.Pattern.parse text).mapError (RunError.badIgnore text) =
      .ok pattern ↔ Glob.Pattern.parse text = .ok pattern := by
    intro text pattern
    cases Glob.Pattern.parse text <;> simp [Except.mapError]
  rw [List.any_eq_true]
  constructor
  · rintro ⟨pattern, hpattern, hmatch⟩
    obtain ⟨text, htext, hparse⟩ := Glob.exists_mem_of_mapM h hpattern
    exact ⟨text, htext, pattern, (hread _ _).1 hparse, hmatch⟩
  · rintro ⟨text, htext, pattern, hparse, hmatch⟩
    obtain ⟨other, hother, hparse'⟩ := exists_of_forall₂ (mapM_eq_ok_iff.1 h) htext
    rw [(hread _ _).2 hparse] at hparse'
    cases hparse'
    exact ⟨pattern, hother, hmatch⟩

/-- Files are the names of paths below a directory, in the order of the steps
    of these paths.  The names are in order themselves unless the base lies
    inside the directory: then those of paths below the base lack their first
    steps, and the others do not. -/
def FileTree.InOrderBelow (t : FileTree) (base folder : Path) (files : List String) : Prop :=
  (∃ paths : List Path, files = paths.map (displayPath base) ∧
    (∀ p ∈ paths, t.LiesBelow folder p) ∧ paths.Pairwise Path.Precedes) ∧
  (base.components <+: folder.components ∨ ¬ folder.components <+: base.components →
    (files.map Path.mk).Pairwise Path.Precedes)

theorem FileTree.inOrderBelow_of_paths {t : FileTree} (ht : t.WellFormed) {base folder : Path}
    {paths : List Path} (hbelow : ∀ p ∈ paths, t.LiesBelow folder p)
    (horder : paths.Pairwise Path.Precedes) :
    t.InOrderBelow base folder (paths.map (displayPath base)) := by
  refine ⟨⟨paths, rfl, hbelow, horder⟩, fun hbase => ?_⟩
  -- the base either starts all the paths or none of them
  have hiff : ∀ p ∈ paths, base.components <+: p.components ↔
      base.components <+: folder.components := by
    intro p hp
    have hfolder := (hbelow p hp).starts_below ht
    constructor
    · intro hprefix
      rcases List.prefix_or_prefix_of_prefix hprefix hfolder with h | h
      · exact h
      · exact hbase.resolve_right (not_not.2 h)
    · exact fun hprefix => hprefix.trans hfolder
  rw [List.map_map, List.pairwise_map]
  refine horder.imp_of_mem fun hp hq h => ?_
  exact h.displayPath ((hiff _ hp).trans (hiff _ hq).symm)

/-- What a directory adds to the files that are known is in order. -/
theorem Scanner.exists_addFiles_ofFolder {s : Scanner} (ht : s.tree.WellFormed)
    (hsorted : s.tree.root.isSorted = true) (folder : Path) (known : List String) :
    ∃ new, Scan.addFiles known (s.ofFolder folder).files = known ++ new ∧
      s.tree.InOrderBelow s.base folder new := by
  obtain ⟨new, hnew, hsub⟩ := Scan.exists_addFiles known (s.ofFolder folder).files
  rw [files_ofFolder] at hsub
  obtain ⟨paths, hpaths, rfl⟩ := List.sublist_map_iff.1 hsub
  have hwalked := hpaths.trans List.filter_sublist
  refine ⟨_, hnew, FileTree.inOrderBelow_of_paths ht (fun p hp => ?_) ?_⟩
  · exact (FileTree.mem_walkedFiles_iff ht).1 (hwalked.subset hp)
  · exact (FileTree.walkedFiles_pairwise ht hsorted).sublist hwalked

section
variable {t : FileTree} {base : Path} {sources ignores : List String} {extensions : ExtensionMap}
variable {verbose : Bool} {scan : Scan}

theorem exists_founds_of_scanSources
    (h : (scanSources t base sources ignores extensions verbose).result = .ok scan) :
    ∃ patterns founds, readIgnores ignores = .ok patterns ∧
      sources.mapM (Scanner.ofSource ⟨t, base, patterns, extensions⟩) = .ok founds ∧
      scan = Scan.gather ⟨[], 0⟩ founds := by
  rw [scanSources_result] at h
  obtain ⟨patterns, hpatterns, h⟩ := bind_eq_ok.1 h
  cases hfounds : sources.mapM (Scanner.ofSource ⟨t, base, patterns, extensions⟩) with
  | error e => simp [hfounds, Except.map] at h
  | ok founds =>
    rw [hfounds] at h
    cases h
    exact ⟨patterns, founds, hpatterns, hfounds, rfl⟩

theorem scanSources_of_founds {patterns : List Glob.Pattern} {founds : List Found}
    (hpatterns : readIgnores ignores = .ok patterns)
    (hfounds : sources.mapM (Scanner.ofSource ⟨t, base, patterns, extensions⟩) = .ok founds) :
    (scanSources t base sources ignores extensions verbose).result =
      .ok (Scan.gather ⟨[], 0⟩ founds) := by
  rw [scanSources_result, hpatterns]
  show Except.map _ (sources.mapM _) = _
  rw [hfounds]
  rfl

/-- **A scan admits exactly the right files.**  A text is listed if and only if
    it is the name of a path that a source admits.  Of the files of a source
    that names a directory, those that no earlier source lists stand together
    and are in the order of their steps, compared byte by byte, if the entries
    of all directories are sorted by name. -/
theorem scanSources_admits (ht : t.WellFormed)
    (hscan : (scanSources t base sources ignores extensions verbose).result = .ok scan) :
    (∀ f, f ∈ scan.files ↔ ∃ source ∈ sources, ∃ p,
      t.Admits base (IgnoredBy ignores) extensions source p ∧ f = displayPath base p) ∧
    (t.root.isSorted = true → ∀ before source after, sources = before ++ source :: after →
      Glob.isPattern source = false → t.isFolder (base.join ⟨source⟩) = true →
      ∃ first upTo new later,
        (scanSources t base before ignores extensions verbose).result = .ok first ∧
        (scanSources t base (before ++ [source]) ignores extensions verbose).result = .ok upTo ∧
        upTo.files = first.files ++ new ∧ scan.files = upTo.files ++ later ∧
        t.InOrderBelow base (base.join ⟨source⟩) new) := by
  obtain ⟨patterns, founds, hpatterns, hfounds, rfl⟩ := exists_founds_of_scanSources hscan
  constructor
  · intro f
    have hignored : Scanner.Ignores ⟨t, base, patterns, extensions⟩ = IgnoredBy ignores :=
      funext fun name => propext (isMatch_any_iff_of_readIgnores hpatterns name)
    have hadmits : ∀ {source found},
        Scanner.ofSource ⟨t, base, patterns, extensions⟩ source = .ok found → (f ∈ found.files ↔
          ∃ p, t.Admits base (IgnoredBy ignores) extensions source p ∧ f = displayPath base p) :=
      fun h => hignored ▸ Scanner.mem_files_ofSource_iff ht h
    rw [Scan.files_gather, Scan.mem_addFiles_iff, List.mem_flatMap]
    constructor
    · rintro (hnone | ⟨found, hmem, hf⟩)
      · simp at hnone
      · obtain ⟨source, hsource, hfound⟩ := Glob.exists_mem_of_mapM hfounds hmem
        exact ⟨source, hsource, (hadmits hfound).1 hf⟩
    · rintro ⟨source, hsource, hf⟩
      obtain ⟨found, hmem, hfound⟩ := exists_of_forall₂ (mapM_eq_ok_iff.1 hfounds) hsource
      exact Or.inr ⟨found, hmem, (hadmits hfound).2 hf⟩
  · rintro hsorted before source after rfl hsource hfolder
    rw [List.mapM_append, List.mapM_cons] at hfounds
    obtain ⟨firsts, hfirsts, hfounds⟩ := bind_eq_ok.1 hfounds
    obtain ⟨others, hothers, hfounds⟩ := bind_eq_ok.1 hfounds
    cases hfounds
    obtain ⟨found, hfound, hothers⟩ := bind_eq_ok.1 hothers
    obtain ⟨lasts, -, hothers⟩ := bind_eq_ok.1 hothers
    cases hothers
    have hupTo : (before ++ [source]).mapM (Scanner.ofSource ⟨t, base, patterns, extensions⟩) =
        .ok (firsts ++ [found]) := by
      rw [List.mapM_append, hfirsts, List.mapM_cons, hfound]
      rfl
    have hwalk : found = Scanner.ofFolder ⟨t, base, patterns, extensions⟩ (base.join ⟨source⟩) := by
      rw [Scanner.ofSource, hsource, if_neg Bool.false_ne_true, Scanner.ofPath, if_pos hfolder] at hfound
      exact (Except.ok.inj hfound).symm
    obtain ⟨new, hnew, horder⟩ := Scanner.exists_addFiles_ofFolder
      (s := ⟨t, base, patterns, extensions⟩) ht hsorted (base.join ⟨source⟩)
      (Scan.gather ⟨[], 0⟩ firsts).files
    obtain ⟨later, hlater, -⟩ := Scan.exists_addFiles
      (Scan.gather ⟨[], 0⟩ (firsts ++ [found])).files (lasts.flatMap Found.files)
    refine ⟨_, _, new, later, scanSources_of_founds hpatterns hfirsts,
      scanSources_of_founds hpatterns hupTo, ?_, ?_, horder⟩
    · rw [Scan.gather_append, Scan.files_gather, hwalk, List.flatMap_singleton]
      exact hnew
    · rw [List.append_cons, Scan.gather_append, Scan.files_gather]
      exact hlater

end

/-- A project with the files `a/x.js` and `a.js`. -/
def nestedTree : FileTree where
  root := .folder true
    [("project", .folder true
      [("a", .folder true [("x.js", .file .empty)]), ("a.js", .file .empty)])]
  workingDir := ["project"]

theorem nestedTree_resolve :
    nestedTree.resolve ⟨"./."⟩ =
      .ok (.folder true [("a", .folder true [("x.js", .file .empty)]), ("a.js", .file .empty)]) := by
  have hlocate : nestedTree.locate .inspect ⟨"./."⟩ = .ok ["project"] := by
    simp [FileTree.locate, Path.moves, splitSlash, Move.ofPart?, Path.endsInSlash, Path.isAbsolute,
      nestedTree, FileTree.follow, Node.at?, Node.child?, Entries.find?]
  rw [FileTree.resolve, hlocate]
  rfl

theorem nestedTree_scan :
    (scanSources nestedTree ⟨"."⟩ ["."] [] .default false).result =
      .ok ⟨["a/x.js", "a.js"], 0⟩ := by
  have hwalk : nestedTree.walk ⟨"./."⟩ = [.file ⟨"././a/x.js"⟩, .file ⟨"././a.js"⟩] := by
    rw [FileTree.walk, nestedTree_resolve]
    decide
  have hfolder : nestedTree.isFolder ⟨"./."⟩ = true := by
    rw [FileTree.isFolder, nestedTree_resolve]
    rfl
  have hfound : Scanner.ofSource ⟨nestedTree, ⟨"."⟩, [], .default⟩ "." =
      .ok ⟨["a/x.js", "a.js"], []⟩ := by
    rw [Scanner.ofSource, if_neg (by decide), Scanner.ofPath,
      show Path.join ⟨"."⟩ ⟨"."⟩ = ⟨"./."⟩ by decide, if_pos hfolder, Scanner.ofFolder, hwalk]
    decide
  have hfounds : ["."].mapM (Scanner.ofSource ⟨nestedTree, ⟨"."⟩, [], .default⟩) =
      .ok [⟨["a/x.js", "a.js"], []⟩] := by
    rw [List.mapM_cons, hfound]
    rfl
  exact scanSources_of_founds rfl hfounds

/-- What lies inside the directory `a` comes before the file `a.js`. -/
theorem nestedTree_scan_admits :
    nestedTree.WellFormed ∧ nestedTree.root.isSorted = true ∧
      (∀ f, f ∈ ["a/x.js", "a.js"] ↔ ∃ p,
        nestedTree.Admits ⟨"."⟩ (IgnoredBy []) .default "." p ∧ f = displayPath ⟨"."⟩ p) ∧
      nestedTree.InOrderBelow ⟨"."⟩ ⟨"./."⟩ ["a/x.js", "a.js"] := by
  have ht : nestedTree.WellFormed := ⟨by decide, by decide, ⟨_, rfl, rfl⟩⟩
  have hsorted : nestedTree.root.isSorted = true := by decide
  obtain ⟨hadmits, horder⟩ := scanSources_admits ht nestedTree_scan
  refine ⟨ht, hsorted, by simpa using hadmits, ?_⟩
  have hfolder : nestedTree.isFolder (Path.join ⟨"."⟩ ⟨"."⟩) = true := by
    rw [show Path.join ⟨"."⟩ ⟨"."⟩ = ⟨"./."⟩ by decide, FileTree.isFolder, nestedTree_resolve]
    rfl
  obtain ⟨first, upTo, new, later, hfirst, hupTo, hnew, -, horder⟩ :=
    horder hsorted [] "." [] rfl (by decide) hfolder
  cases hfirst
  cases nestedTree_scan.symm.trans hupTo
  rw [show ["a/x.js", "a.js"] = new from hnew]
  exact horder

end PotCatalog
