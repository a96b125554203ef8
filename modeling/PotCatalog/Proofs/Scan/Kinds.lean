/-
  The kinds of the files that walks find.

  The kind of a path rests on its last step alone, and the name of a path below
  a base directory ends in the same step (`kindFor_displayPath_iff`).  So a file
  that is known where a walk finds it is known by its name.

  `planFiles_of_folders`: if all sources stand for directories, then every file
  of a scan can be planned, as the kind of file that a walk has found.
-/
import PotCatalog.Proofs.Scan.Admission
import PotCatalog.Proofs.Scan.Opening

namespace PotCatalog

/-! ## Last steps -/

namespace Path

variable {base p q : Path}

theorem fileName?_eq_some_iff {name : String} :
    p.fileName? = some name ↔ p.steps.getLast? = some (.name name) := by
  have hname : p.fileName? = some name ↔ p.components.getLast? = some (.name name) := by
    unfold fileName?
    cases p.components.getLast? with
    | none => simp
    | some c => cases c <;> simp
  rw [hname, components_eq_steps]
  rcases List.eq_nil_or_concat p.steps with hnil | ⟨front, last, hlast⟩
  · rw [hnil]
    split <;> simp
  · rw [hlast, List.concat_eq_append, ← List.append_assoc, List.getLast?_concat, List.getLast?_concat]

theorem fileName?_congr (h : p.steps.getLast? = q.steps.getLast?) : p.fileName? = q.fileName? := by
  refine Option.ext fun name => ?_
  rw [fileName?_eq_some_iff, fileName?_eq_some_iff, h]

theorem fileName?_of_steps_eq_nil (h : p.steps = []) : p.fileName? = none := by
  refine Option.eq_none_iff_forall_ne_some.2 fun name hname => ?_
  rw [fileName?_eq_some_iff, h] at hname
  cases hname

/-- A path with the steps of its base directory, and starting like the base, is
    spelled like it, up to idle parts. -/
theorem components_eq_of_steps_eq (hstarts : base.components <+: p.components)
    (hsteps : p.steps = base.steps) (hne : p.steps ≠ []) : p.components = base.components := by
  rw [components_eq_steps, components_eq_steps, hsteps] at hstarts ⊢
  have hlength := hstarts.length_le
  cases hp : p.startsAtDot <;> cases hbase : base.startsAtDot
  case false.false | true.true => rfl
  case false.true =>
    simp only [hp, hbase, List.length_append] at hlength
    exact absurd hlength (by simp)
  case true.false =>
    -- the steps of the base would have to start with the dot
    obtain ⟨c, cs, hcs⟩ := List.exists_cons_of_ne_nil (hsteps ▸ hne)
    have hdot : c = .current := by
      simp only [hp, hbase, hcs] at hstarts
      exact (List.cons_prefix_cons.1 hstarts).1
    have hmem : c ∈ base.steps := hcs ▸ List.mem_cons_self ..
    simp [steps, hdot] at hmem

theorem displayPath_of_components_eq (h : p.components = base.components) :
    displayPath base p = "" := by
  have hstrip : stripStart? base.components p.components = some [] :=
    stripStart?_eq_some_iff.2 (h.trans (List.append_nil _).symm)
  rw [displayPath, hstrip]
  rfl

/-- The name of a path below a base directory ends as the path does. -/
theorem fileName?_displayPath (h : p.components ≠ base.components) :
    (Path.mk (displayPath base p)).fileName? = p.fileName? := by
  obtain ⟨before, rest, hsteps, hname, hplace⟩ := exists_displayPath_eq base p
  have hrest := steps_displayPath hsteps hname
  by_cases hnil : rest = []
  · have hp : p.steps = [] := by
      by_contra hne
      rw [hnil, List.append_nil] at hsteps
      rcases hplace with ⟨hstarts, hbefore⟩ | ⟨-, hbefore⟩
      · exact h (components_eq_of_steps_eq hstarts (hsteps.trans hbefore) hne)
      · exact hne (hsteps.trans hbefore)
    rw [fileName?_of_steps_eq_nil (hrest.trans hnil), fileName?_of_steps_eq_nil hp]
  · refine fileName?_congr ?_
    rw [hrest, hsteps, List.getLast?_append_of_ne_nil before hnil]

end Path

namespace ExtensionMap

variable (m : ExtensionMap) {base p q : Path}

theorem kindFor_congr (h : p.fileName? = q.fileName?) : m.kindFor p = m.kindFor q := by
  rw [kindFor, kindFor, Path.extension?, Path.extension?, h]

theorem kindFor_displayPath (h : p.components ≠ base.components) :
    m.kindFor ⟨displayPath base p⟩ = m.kindFor p :=
  m.kindFor_congr (Path.fileName?_displayPath h)

/-- **A name stands for the kind of its path,** unless the path is the base
    directory itself and has a kind: then nothing is left of it. -/
theorem kindFor_displayPath_iff :
    m.kindFor ⟨displayPath base p⟩ = m.kindFor p ↔
      (p.components = base.components → m.kindFor p = none) := by
  by_cases h : p.components = base.components
  · have hnone : m.kindFor ⟨displayPath base p⟩ = none := by
      rw [Path.displayPath_of_components_eq h]
      rfl
    rw [hnone, eq_comm]
    exact ⟨fun hp _ => hp, fun hp => hp h⟩
  · exact iff_of_true (m.kindFor_displayPath h) fun heq => absurd heq h

end ExtensionMap

/-! ## Plans -/

section
variable {extensions : ExtensionMap}

theorem planFile_eq_ok_iff {file : String} {job : Job} :
    planFile extensions file = .ok job ↔
      job.file = file ∧ extensions.kindFor ⟨file⟩ = some job.kind := by
  obtain ⟨name, kind⟩ := job
  unfold planFile
  cases extensions.kindFor ⟨file⟩ <;> simp [eq_comm]

theorem exists_planFiles {files : List String}
    (h : ∀ file ∈ files, ∃ kind, extensions.kindFor ⟨file⟩ = some kind) :
    ∃ jobs, planFiles extensions files = .ok jobs := by
  refine exists_mapM_eq_ok fun file hfile => ?_
  obtain ⟨kind, hkind⟩ := h file hfile
  exact ⟨⟨file, kind⟩, planFile_eq_ok_iff.2 ⟨rfl, hkind⟩⟩

theorem planFiles_eq_ok_iff {files : List String} {jobs : List Job} :
    planFiles extensions files = .ok jobs ↔
      jobs.map Job.file = files ∧ ∀ job ∈ jobs, extensions.kindFor ⟨job.file⟩ = some job.kind := by
  rw [planFiles, mapM_eq_ok_iff]
  induction jobs generalizing files with
  | nil => simp [eq_comm]
  | cons job jobs ih =>
    rw [List.forall₂_cons_right_iff, List.map_cons, List.forall_mem_cons]
    constructor
    · rintro ⟨file, rest, hjob, hjobs, rfl⟩
      obtain ⟨rfl, hkind⟩ := planFile_eq_ok_iff.1 hjob
      obtain ⟨rfl, hkinds⟩ := ih.1 hjobs
      exact ⟨rfl, hkind, hkinds⟩
    · rintro ⟨rfl, hkind, hkinds⟩
      exact ⟨job.file, _, planFile_eq_ok_iff.2 ⟨rfl, hkind⟩, ih.2 ⟨rfl, hkinds⟩, rfl⟩

end

/-! ## Sources that stand for directories -/

namespace FileTree

/-- A source stands for directories only: it names one, or it is a pattern that
    matches nothing else. -/
inductive NamesFolders (t : FileTree) (base : Path) (source : String) : Prop where
  | named (hplain : Glob.isPattern source = false) (hfolder : t.isFolder (base.join ⟨source⟩) = true)
  | matched {pattern} (hsource : Glob.isPattern source = true)
      (hparse : Glob.PathPattern.parse (base.join ⟨source⟩).text = .ok pattern)
      (hfolders : ∀ p, .path p ∈ pattern.expand t → t.isFolder p = true)

/-- A walk finds a path, below a directory that a source names or matches. -/
def FindsBelow (t : FileTree) (base : Path) (sources : List String) (p : Path) : Prop :=
  ∃ source ∈ sources, ∃ folder, t.StartsAt base source folder ∧ t.LiesBelow folder p

variable {t : FileTree} {base folder p : Path} {source : String} {sources : List String}

theorem LiesBelow.isFile (ht : t.WellFormed) (hfolder : t.isFolder folder = true)
    (h : t.LiesBelow folder p) : t.isFile p = true := by
  obtain ⟨visit, hvisit, hfile⟩ := List.mem_filterMap.1 ((mem_walkedFiles_iff ht).2 h)
  cases visit with
  | blocked => cases hfile
  | file q =>
    cases hfile
    exact (walk_spec ht hfolder hvisit).1

theorem FindsBelow.isFile (ht : t.WellFormed) (h : t.FindsBelow base sources p) :
    t.isFile p = true := by
  obtain ⟨source, -, folder, ⟨hfolder, -⟩, hbelow⟩ := h
  exact hbelow.isFile ht hfolder

/-- Nothing that a walk finds is the base directory. -/
theorem FindsBelow.components_ne (ht : t.WellFormed) (hbase : t.IsBase base)
    (h : t.FindsBelow base sources p) : p.components ≠ base.components := by
  intro heq
  refine steps_ne_base ht hbase (h.isFile ht) ?_
  rw [Path.steps, Path.steps, heq]

/-- A source that stands for directories only admits what walks find. -/
theorem Admits.exists_startsAt {ignored : String → Prop} {extensions : ExtensionMap}
    (hsource : t.NamesFolders base source) (h : t.Admits base ignored extensions source p) :
    extensions.supports p = true ∧ ∃ folder, t.StartsAt base source folder ∧ t.LiesBelow folder p := by
  cases h with
  | below hstart hbelow hknown => exact ⟨hknown, _, hstart, hbelow⟩
  | named hplain hfile =>
    cases hsource with
    | named _ hfolder => simp [isFolder_of_isFile hfile] at hfolder
    | matched hpattern => simp [hplain] at hpattern
  | matched hmatch hnot =>
    cases hsource with
    | named hplain => simp [hmatch.1] at hplain
    | matched _ hparse hfolders =>
      obtain ⟨-, parsed, hparsed, hmem⟩ := hmatch
      cases hparse.symm.trans hparsed
      simp [hfolders p hmem] at hnot

theorem NamesFolders.exists_ofSource (hsource : t.NamesFolders base source)
    (ignores : List Glob.Pattern) (extensions : ExtensionMap) :
    ∃ found, Scanner.ofSource ⟨t, base, ignores, extensions⟩ source = .ok found := by
  rw [Scanner.ofSource]
  cases hsource with
  | named hplain hfolder =>
    rw [hplain, if_neg Bool.false_ne_true, Scanner.ofPath, if_pos hfolder]
    exact ⟨_, rfl⟩
  | matched hpattern hparse hfolders =>
    rw [if_pos hpattern, Scanner.ofPattern, hparse]
    exact ⟨_, rfl⟩

end FileTree

section
variable {t : FileTree} {base : Path} {sources ignores : List String}

theorem exists_scan_of_folders {patterns : List Glob.Pattern}
    (hignores : readIgnores ignores = .ok patterns)
    (hsources : ∀ source ∈ sources, t.NamesFolders base source) (extensions : ExtensionMap)
    (verbose : Bool) :
    ∃ scan, (scanSources t base sources ignores extensions verbose).result = .ok scan := by
  obtain ⟨founds, hfounds⟩ := exists_mapM_eq_ok fun source hsource =>
    (hsources source hsource).exists_ofSource patterns extensions
  exact ⟨_, scanSources_of_founds hignores hfounds⟩

/-- The files of a scan of directories are known where a walk finds them. -/
theorem exists_findsBelow_of_mem_files (ht : t.WellFormed)
    (hsources : ∀ source ∈ sources, t.NamesFolders base source) {extensions : ExtensionMap}
    {verbose : Bool} {scan : Scan}
    (hscan : (scanSources t base sources ignores extensions verbose).result = .ok scan) {f : String}
    (hf : f ∈ scan.files) :
    ∃ p, t.FindsBelow base sources p ∧ f = displayPath base p ∧ extensions.supports p = true := by
  obtain ⟨patterns, founds, -, hfounds, rfl⟩ := exists_founds_of_scanSources hscan
  rw [Scan.files_gather, Scan.mem_addFiles_iff, List.mem_flatMap] at hf
  obtain hnone | ⟨found, hmem, hf⟩ := hf
  · cases hnone
  · obtain ⟨source, hsource, hfound⟩ := Glob.exists_mem_of_mapM hfounds hmem
    obtain ⟨p, hadmits, hname⟩ := (Scanner.mem_files_ofSource_iff (s := ⟨t, base, patterns, extensions⟩)
      ht hfound).1 hf
    obtain ⟨hknown, hbelow⟩ := hadmits.exists_startsAt (hsources source hsource)
    exact ⟨p, ⟨source, hsource, hbelow⟩, hname, hknown⟩

end

/-- **Files that are found in directories never abort a run.**  The name of a
    path below a base directory stands for the same kind as the path, unless
    nothing but the base is left of it.  So if all sources stand for
    directories, the files of a scan can be planned, and each is read as the
    kind of every path that a walk has found and that goes by its name. -/
theorem planFiles_of_folders (extensions : ExtensionMap) :
    (∀ base p : Path, extensions.kindFor ⟨displayPath base p⟩ = extensions.kindFor p ↔
      (p.components = base.components → extensions.kindFor p = none)) ∧
    ∀ (t : FileTree) (base : Path) (sources ignores : List String) (verbose : Bool)
      (patterns : List Glob.Pattern), t.WellFormed → t.IsBase base →
      readIgnores ignores = .ok patterns → (∀ source ∈ sources, t.NamesFolders base source) →
      ∃ scan jobs, (scanSources t base sources ignores extensions verbose).result = .ok scan ∧
        planFiles extensions scan.files = .ok jobs ∧ jobs.map Job.file = scan.files ∧
        ∀ job ∈ jobs,
          (∃ p, t.FindsBelow base sources p ∧ displayPath base p = job.file) ∧
          ∀ p, t.FindsBelow base sources p → displayPath base p = job.file →
            extensions.kindFor p = some job.kind := by
  refine ⟨fun base p => extensions.kindFor_displayPath_iff, ?_⟩
  intro t base sources ignores verbose patterns ht hbase hignores hsources
  obtain ⟨scan, hscan⟩ := exists_scan_of_folders hignores hsources extensions verbose
  have hkinds : ∀ file ∈ scan.files, ∃ kind, extensions.kindFor ⟨file⟩ = some kind := by
    intro file hfile
    obtain ⟨p, hfinds, rfl, hknown⟩ := exists_findsBelow_of_mem_files ht hsources hscan hfile
    rw [extensions.kindFor_displayPath (hfinds.components_ne ht hbase)]
    exact Option.isSome_iff_exists.1 hknown
  obtain ⟨jobs, hjobs⟩ := exists_planFiles hkinds
  obtain ⟨hfiles, hplanned⟩ := planFiles_eq_ok_iff.1 hjobs
  refine ⟨scan, jobs, hscan, hjobs, hfiles, fun job hjob => ⟨?_, fun p hfinds hname => ?_⟩⟩
  · have hmem : job.file ∈ scan.files := hfiles ▸ List.mem_map_of_mem hjob
    obtain ⟨p, hfinds, hname, -⟩ := exists_findsBelow_of_mem_files ht hsources hscan hmem
    exact ⟨p, hfinds, hname.symm⟩
  · rw [← hplanned job hjob, ← hname]
    exact (extensions.kindFor_displayPath (hfinds.components_ne ht hbase)).symm

/-- A walk from the working directory finds scripts only. -/
theorem nestedTree_planFiles :
    (nestedTree.WellFormed ∧ nestedTree.IsBase ⟨"."⟩ ∧ readIgnores [] = .ok [] ∧
      ∀ source ∈ ["."], nestedTree.NamesFolders ⟨"."⟩ source) ∧
    planFiles .default ["a/x.js", "a.js"] = .ok [⟨"a/x.js", .script⟩, ⟨"a.js", .script⟩] ∧
    ∃ p, nestedTree.FindsBelow ⟨"."⟩ ["."] p ∧ displayPath ⟨"."⟩ p = "a/x.js" ∧
      ExtensionMap.default.kindFor p = some .script := by
  have ht : nestedTree.WellFormed := ⟨by decide, by decide, ⟨_, rfl, rfl⟩⟩
  have hjoin : Path.join ⟨"."⟩ ⟨"."⟩ = ⟨"./."⟩ := by decide
  have hfolder : nestedTree.isFolder (Path.join ⟨"."⟩ ⟨"."⟩) = true := by
    rw [hjoin, FileTree.isFolder, nestedTree_resolve]
    rfl
  have hbase : nestedTree.IsBase ⟨"."⟩ := by
    have hlocate : nestedTree.locate .inspect ⟨"."⟩ = .ok ["project"] := by
      simp [FileTree.locate, Path.moves, splitSlash, Move.ofPart?, Path.endsInSlash, Path.isAbsolute,
        nestedTree, FileTree.follow, Node.at?, Node.child?, Entries.find?]
    refine Or.inr ?_
    rw [FileTree.isFolder, FileTree.resolve, hlocate]
    rfl
  have hsources : ∀ source ∈ ["."], nestedTree.NamesFolders ⟨"."⟩ source := by
    intro source hsource
    rw [List.mem_singleton.1 hsource]
    exact .named (by decide) hfolder
  obtain ⟨scan, jobs, hscan, hplan, -, hjobs⟩ := (planFiles_of_folders .default).2 nestedTree ⟨"."⟩
    ["."] [] false [] ht hbase rfl hsources
  cases nestedTree_scan.symm.trans hscan
  have hscripts : planFiles .default ["a/x.js", "a.js"] =
      .ok [⟨"a/x.js", .script⟩, ⟨"a.js", .script⟩] := by decide
  cases hscripts.symm.trans hplan
  obtain ⟨⟨p, hfinds, hname⟩, hkind⟩ := hjobs ⟨"a/x.js", .script⟩ (List.mem_cons_self ..)
  exact ⟨⟨ht, hbase, rfl, hsources⟩, hscripts, p, hfinds, hname, hkind p hfinds hname⟩

end PotCatalog
