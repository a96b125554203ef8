/-
  Planning a run.

  Planning loads the configuration, expands the sources of every target and
  chooses how each file is read.  `PlanningFails` says where it can fail, and
  `planExtract_fails_iff` that it fails exactly there, at whatever target,
  source or file.  A failure ends the run before anything is written or printed.

  Scanning sees the outline of a tree only (`scanSources_outline`), so a plan
  depends on the outline and on the configuration file
  (`planExtract_eq_of_outline`).
-/
import PotCatalog.Command.Run
import PotCatalog.Proofs.Files.Outline
import PotCatalog.Proofs.Scan.Gathering

namespace PotCatalog

/-! ## Scanning the outline -/

namespace Glob

variable (t : FileTree) (foldersOnly : Bool) (deeper : List Pattern → Path → List Hit)

theorem advance_outline (rest : List Pattern) (path : Path) :
    advance t.outline foldersOnly deeper rest path = advance t foldersOnly deeper rest path := by
  cases rest with
  | nil => simp only [advance, FileTree.isFolder_outline]
  | cons pattern rest => rfl

theorem compareName_outline (patterns : List Pattern) (path : Path) (name : String) :
    compareName t.outline foldersOnly deeper patterns path name =
      compareName t foldersOnly deeper patterns path name := by
  cases patterns with
  | nil => rfl
  | cons pattern rest => simp only [compareName, advance_outline]

theorem compareEntry_outline (patterns : List Pattern) (folder : Path) (name : String) :
    compareEntry t.outline foldersOnly deeper patterns folder name =
      compareEntry t foldersOnly deeper patterns folder name := by
  cases patterns with
  | nil => rfl
  | cons pattern rest =>
    simp only [compareEntry, compareName_outline, FileTree.isFolder_outline]

theorem flatMap_entriesOutline {α : Type} (f : String → List α) (entries : Entries) :
    (entriesOutline entries).flatMap (fun entry => f entry.1) =
      entries.flatMap fun entry => f entry.1 := by
  induction entries with
  | nil => rfl
  | cons entry rest ih => simp only [entriesOutline, List.flatMap_cons, ih]

theorem expandFolder_outline (pattern : Pattern) (rest : List Pattern) (folder : Path) :
    expandFolder t.outline foldersOnly deeper pattern rest folder =
      expandFolder t foldersOnly deeper pattern rest folder := by
  rw [expandFolder, expandFolder, FileTree.isFolder_outline, FileTree.list_outline]
  cases t.list folder with
  | error e => rfl
  | ok entries =>
    simp only [Except.map, advance_outline, compareEntry_outline]
    rw [flatMap_entriesOutline]

theorem expandLiteral_outline (name : String) (rest : List Pattern) (folder : Path) :
    expandLiteral t.outline foldersOnly deeper name rest folder =
      expandLiteral t foldersOnly deeper name rest folder := by
  simp only [expandLiteral, FileTree.isFolder_outline, FileTree.hasEntry_outline, advance_outline]

theorem expandFrom_outline (fuel : Nat) :
    expandFrom t.outline foldersOnly fuel = expandFrom t foldersOnly fuel := by
  induction fuel with
  | zero => rfl
  | succ fuel ih =>
    funext patterns path
    cases patterns with
    | nil => rfl
    | cons pattern rest =>
      simp only [expandFrom, ih, expandLiteral_outline, expandFolder_outline]

theorem PathPattern.expand_outline (pattern : PathPattern) :
    pattern.expand t.outline = pattern.expand t := by
  rw [expand, expand, expandFrom_outline, bound, bound, FileTree.outline, Node.height_outline]

end Glob

namespace Scanner

/-- A scanner that works with the outline of its tree. -/
def outline (s : Scanner) : Scanner := { s with tree := s.tree.outline }

variable (s : Scanner)

theorem ofFolder_outline (p : Path) : s.outline.ofFolder p = s.ofFolder p := by
  show Found.join ((s.tree.outline.walk p).map s.ofVisit) = _
  rw [FileTree.walk_outline]
  rfl

theorem ofHit_outline (hit : Glob.Hit) : s.outline.ofHit hit = s.ofHit hit := by
  cases hit with
  | unreadable p error => rfl
  | path p =>
    simp only [ofHit, ofFolder_outline]
    show (if s.tree.outline.isFolder p then _ else _) = _
    rw [FileTree.isFolder_outline]
    rfl

theorem ofSource_outline (source : String) : s.outline.ofSource source = s.ofSource source := by
  simp only [ofSource, ofPattern, ofPath, ofFolder_outline, funext s.ofHit_outline]
  simp only [outline, FileTree.isFolder_outline, FileTree.isFile_outline,
    Glob.PathPattern.expand_outline]
  rfl

theorem scanFrom_outline (verbose : Bool) (scan : Scan) (sources : List String) :
    s.outline.scanFrom verbose scan sources = s.scanFrom verbose scan sources := by
  induction sources generalizing scan with
  | nil => rfl
  | cons source rest ih => simp only [scanFrom, ofSource_outline, ih]

end Scanner

theorem scanSources_outline (t : FileTree) (base : Path) (sources ignores : List String)
    (extensions : ExtensionMap) (verbose : Bool) :
    scanSources t.outline base sources ignores extensions verbose =
      scanSources t base sources ignores extensions verbose := by
  rw [scanSources, scanSources]
  exact congrArg _ (funext fun patterns =>
    Scanner.scanFrom_outline ⟨t, base, patterns, extensions⟩ verbose ⟨[], 0⟩ sources)

/-! ## Loading the configuration -/

theorem searchConfig_outline (t : FileTree) (folders : List Path) :
    searchConfig t.outline folders = searchConfig t folders := by
  induction folders with
  | nil => rfl
  | cons folder rest ih => simp only [searchConfig, FileTree.pathExists_outline, ih]

theorem findConfig_outline (t : FileTree) (start : Path) :
    findConfig t.outline start = findConfig t start := by
  simp only [findConfig, searchStart, FileTree.canonical_outline, searchConfig_outline]

theorem loadConfig_eq_of_outline {t t' : FileTree} {start : Path} (h : t'.outline = t.outline)
    (hconfig : ∀ path, findConfig t start = some path → t'.read path = t.read path) :
    loadConfig t' start = loadConfig t start := by
  have hfind : findConfig t' start = findConfig t start := by
    rw [← findConfig_outline t', h, findConfig_outline]
  unfold loadConfig
  rw [hfind]
  cases hpath : findConfig t start with
  | none => rfl
  | some path => simp only [readConfigFile, hconfig path hpath]

theorem readIgnores_of_loadConfig {t : FileTree} {start : Path} {loaded : LoadedConfig}
    (h : loadConfig t start = .ok loaded) :
    ∃ patterns, readIgnores loaded.config.ignores = .ok patterns := by
  unfold loadConfig at h
  cases hfind : findConfig t start with
  | none =>
    rw [hfind] at h
    cases h
    exact ⟨[], rfl⟩
  | some path =>
    rw [hfind] at h
    cases hread : readConfigFile t path with
    | error e => simp [hread, Except.map] at h
    | ok config =>
      simp only [hread, Except.map, Except.ok.injEq] at h
      obtain ⟨text, -, hread⟩ := bind_eq_ok.1 hread
      obtain ⟨parsed, -, hread⟩ := bind_eq_ok.1 hread
      obtain ⟨_, hvalid, hread⟩ := bind_eq_ok.1 hread
      cases hread
      obtain ⟨patterns, hpatterns, -⟩ := bind_eq_ok.1 hvalid
      exact ⟨patterns, h ▸ hpatterns⟩

/-! ## What a plan is -/

instance : LawfulMonad Logged := LawfulMonad.mk' Logged
  (fun x => by
    obtain ⟨log, result⟩ := x
    cases result <;> simp [Functor.map, Logged.andThen, Logged.lift])
  (fun a f => by simp [bind, pure, Logged.andThen, Logged.lift])
  (fun x f g => by
    obtain ⟨log, result⟩ := x
    cases result with
    | error e => rfl
    | ok a => cases h : (f a).result <;> simp [bind, Logged.andThen, h])

theorem Logged.result_mapM {α β : Type} (f : α → Logged β) (xs : List α) :
    (xs.mapM f).result = xs.mapM fun a => (f a).result := by
  induction xs with
  | nil => rfl
  | cons a xs ih => simp only [List.mapM_cons, Logged.result_bind, ih]; rfl

theorem exists_error_of_mapM {ε α β : Type} {f : α → Except ε β} {l : List α} {e : ε}
    (h : l.mapM f = .error e) : ∃ a ∈ l, f a = .error e := by
  induction l with
  | nil => cases h
  | cons a l ih =>
    rw [List.mapM_cons] at h
    cases ha : f a with
    | error e' =>
      rw [ha] at h
      cases h
      exact ⟨a, List.mem_cons_self .., ha⟩
    | ok b =>
      cases hl : l.mapM f with
      | error e' =>
        rw [ha, hl] at h
        cases h
        obtain ⟨other, hmem, hother⟩ := ih hl
        exact ⟨other, List.mem_cons_of_mem _ hmem, hother⟩
      | ok others =>
        rw [ha, hl] at h
        cases h

/-- What a plan holds for a target: the files of its sources, each with the way
    it is read. -/
def PlannedTarget.For (t : FileTree) (base : Path) (config : Config) (verbose : Bool)
    (target : Target) (planned : PlannedTarget) : Prop :=
  planned.output = target.output ∧
    ∃ scan, (scanSources t base target.sources config.ignores config.extensionMap verbose).result =
        .ok scan ∧
      planFiles config.extensionMap scan.files = .ok planned.jobs

theorem planTarget_eq_ok_iff {t : FileTree} {base : Path} {config : Config} {verbose : Bool}
    {target : Target} {planned : PlannedTarget} :
    (planTarget t base config verbose target).result = .ok planned ↔
      planned.For t base config verbose target := by
  rw [planTarget, Logged.bind_result_eq_ok]
  constructor
  · rintro ⟨scan, hscan, h⟩
    obtain ⟨jobs, hjobs, h⟩ := Logged.bind_result_eq_ok.1 h
    obtain ⟨-, -, h⟩ := Logged.bind_result_eq_ok.1 h
    cases h
    exact ⟨rfl, scan, hscan, hjobs⟩
  · obtain ⟨output, jobs⟩ := planned
    rintro ⟨rfl, scan, hscan, hjobs⟩
    exact ⟨scan, hscan, Logged.bind_result_eq_ok.2 ⟨jobs, hjobs,
      Logged.bind_result_eq_ok.2 ⟨(), rfl, rfl⟩⟩⟩

/-- **A plan** takes up all targets in their order. -/
theorem planExtract_eq_ok_iff {t : FileTree} {options : ExtractOptions} {plan : Plan} :
    (planExtract t options).result = .ok plan ↔
      ∃ loaded targets, loadConfig t options.root = .ok loaded ∧
        chooseTargets options loaded = .ok (plan.base, targets) ∧
        List.Forall₂ (PlannedTarget.For t plan.base loaded.config options.verbose) targets
          plan.targets := by
  rw [planExtract, Logged.bind_result_eq_ok]
  constructor
  · rintro ⟨loaded, hload, h⟩
    obtain ⟨-, -, h⟩ := Logged.bind_result_eq_ok.1 h
    obtain ⟨⟨base, targets⟩, hchoose, h⟩ := Logged.bind_result_eq_ok.1 h
    obtain ⟨planned, hplanned, h⟩ := Logged.bind_result_eq_ok.1 h
    cases h
    rw [Logged.result_mapM, mapM_eq_ok_iff] at hplanned
    exact ⟨loaded, targets, hload, hchoose, hplanned.imp fun _ _ => planTarget_eq_ok_iff.1⟩
  · obtain ⟨base, planned⟩ := plan
    rintro ⟨loaded, targets, hload, hchoose, hplanned⟩
    refine ⟨loaded, hload, Logged.bind_result_eq_ok.2 ⟨(), rfl,
      Logged.bind_result_eq_ok.2 ⟨(base, targets), hchoose,
        Logged.bind_result_eq_ok.2 ⟨planned, ?_, rfl⟩⟩⟩⟩
    rw [Logged.result_mapM, mapM_eq_ok_iff]
    exact hplanned.imp fun _ _ => planTarget_eq_ok_iff.2

/-! ## Where planning fails -/

/-- Planning a run fails: the configuration cannot be loaded or is not valid,
    there is nothing to do, a source of a target cannot be expanded, or a file
    of a target is of no known kind. -/
inductive PlanningFails (t : FileTree) (options : ExtractOptions) : Prop where
  | config {e} (hload : loadConfig t options.root = .error e)
  | targets {loaded e} (hload : loadConfig t options.root = .ok loaded)
      (hchoose : chooseTargets options loaded = .error e)
  | source {loaded base targets target patterns source e}
      (hload : loadConfig t options.root = .ok loaded)
      (hchoose : chooseTargets options loaded = .ok (base, targets))
      (htarget : target ∈ targets) (hsource : source ∈ target.sources)
      (hignores : readIgnores loaded.config.ignores = .ok patterns)
      (hexpand : Scanner.ofSource ⟨t, base, patterns, loaded.config.extensionMap⟩ source = .error e)
  | file {loaded base targets target scan file}
      (hload : loadConfig t options.root = .ok loaded)
      (hchoose : chooseTargets options loaded = .ok (base, targets))
      (htarget : target ∈ targets)
      (hscan : (scanSources t base target.sources loaded.config.ignores loaded.config.extensionMap
        options.verbose).result = .ok scan)
      (hfile : file ∈ scan.files) (hkind : loaded.config.extensionMap.kindFor ⟨file⟩ = none)

theorem Logged.bind_result_eq_error {α β : Type} {x : Logged α} {f : α → Logged β} {e : RunError} :
    (x >>= f).result = .error e ↔
      x.result = .error e ∨ ∃ a, x.result = .ok a ∧ (f a).result = .error e := by
  rw [Logged.result_bind]
  cases x.result <;> simp [bind, Except.bind]

theorem Scanner.exists_error_of_scanFrom {s : Scanner} {verbose : Bool} {scan : Scan}
    {sources : List String} {e : RunError}
    (h : (s.scanFrom verbose scan sources).result = .error e) :
    ∃ source ∈ sources, s.ofSource source = .error e := by
  induction sources generalizing scan with
  | nil => cases h
  | cons source rest ih =>
    rcases Logged.bind_result_eq_error.1 h with hsource | ⟨found, -, h⟩
    · exact ⟨source, List.mem_cons_self .., hsource⟩
    · obtain h | ⟨-, -, h⟩ := Logged.bind_result_eq_error.1 h
      · cases h
      · obtain ⟨other, hmem, hother⟩ := ih h
        exact ⟨other, List.mem_cons_of_mem _ hmem, hother⟩

theorem Scanner.ofSource_eq_ok_of_scanFrom {s : Scanner} {verbose : Bool} {scan final : Scan}
    {sources : List String} (h : (s.scanFrom verbose scan sources).result = .ok final) :
    ∀ source ∈ sources, ∃ found, s.ofSource source = .ok found := by
  induction sources generalizing scan with
  | nil => simp
  | cons source rest ih =>
    obtain ⟨found, hfound, h⟩ := Logged.bind_result_eq_ok.1 h
    obtain ⟨-, -, h⟩ := Logged.bind_result_eq_ok.1 h
    intro other hother
    rcases List.mem_cons.1 hother with rfl | hother
    · exact ⟨found, hfound⟩
    · exact ih h other hother

theorem planFile_fails_iff {extensions : ExtensionMap} {file : String} :
    (∃ e, planFile extensions file = .error e) ↔ extensions.kindFor ⟨file⟩ = none := by
  unfold planFile
  cases extensions.kindFor ⟨file⟩ <;> simp

theorem kindFor_of_planFiles {extensions : ExtensionMap} {files : List String} {jobs : List Job}
    (h : planFiles extensions files = .ok jobs) :
    ∀ file ∈ files, extensions.kindFor ⟨file⟩ ≠ none := by
  intro file hfile hkind
  obtain ⟨job, -, hjob⟩ := exists_of_forall₂ (mapM_eq_ok_iff.1 h) hfile
  obtain ⟨e, he⟩ := planFile_fails_iff.2 hkind
  simp [he] at hjob

theorem PlanningFails.not_ok {t : FileTree} {options : ExtractOptions}
    (h : PlanningFails t options) (plan : Plan) : (planExtract t options).result ≠ .ok plan := by
  intro hplan
  obtain ⟨loaded', targets', hload', hchoose', hplanned⟩ := planExtract_eq_ok_iff.1 hplan
  cases h with
  | config hload => simp [hload] at hload'
  | targets hload hchoose =>
    cases hload.symm.trans hload'
    simp [hchoose] at hchoose'
  | source hload hchoose htarget hsource hignores hexpand =>
    cases hload.symm.trans hload'
    cases hchoose.symm.trans hchoose'
    obtain ⟨planned, -, -, scan, hscan, -⟩ := exists_of_forall₂ hplanned htarget
    obtain ⟨patterns, hpatterns, hscan⟩ := Logged.bind_result_eq_ok.1 hscan
    cases hignores.symm.trans hpatterns
    obtain ⟨found, hfound⟩ := Scanner.ofSource_eq_ok_of_scanFrom hscan _ hsource
    simp [hexpand] at hfound
  | file hload hchoose htarget hscan hfile hkind =>
    cases hload.symm.trans hload'
    cases hchoose.symm.trans hchoose'
    obtain ⟨planned, -, -, scan, hscan', hjobs⟩ := exists_of_forall₂ hplanned htarget
    cases hscan.symm.trans hscan'
    exact kindFor_of_planFiles hjobs _ hfile hkind

theorem PlanningFails.of_error {t : FileTree} {options : ExtractOptions} {e : RunError}
    (h : (planExtract t options).result = .error e) : PlanningFails t options := by
  rcases Logged.bind_result_eq_error.1 h with hload | ⟨loaded, hload, h⟩
  · exact .config hload
  obtain h | ⟨-, -, h⟩ := Logged.bind_result_eq_error.1 h
  · cases h
  rcases Logged.bind_result_eq_error.1 h with hchoose | ⟨⟨base, targets⟩, hchoose, h⟩
  · exact .targets hload hchoose
  obtain h | ⟨_, -, h⟩ := Logged.bind_result_eq_error.1 h
  · rw [Logged.result_mapM] at h
    obtain ⟨target, htarget, h⟩ := exists_error_of_mapM h
    rcases Logged.bind_result_eq_error.1 h with hscan | ⟨scan, hscan, h⟩
    · obtain ⟨patterns, hpatterns⟩ := readIgnores_of_loadConfig hload
      obtain hignores | ⟨other, hother, hscan⟩ := Logged.bind_result_eq_error.1 hscan
      · simp [Logged.lift, hpatterns] at hignores
      · obtain ⟨source, hsource, hexpand⟩ := Scanner.exists_error_of_scanFrom hscan
        exact .source hload hchoose htarget hsource hother hexpand
    · obtain hjobs | ⟨_, -, h⟩ := Logged.bind_result_eq_error.1 h
      · obtain ⟨file, hfile, hkind⟩ := exists_error_of_mapM hjobs
        exact .file hload hchoose htarget hscan hfile (planFile_fails_iff.1 ⟨_, hkind⟩)
      · obtain h | ⟨_, -, h⟩ := Logged.bind_result_eq_error.1 h <;> cases h
  · cases h

theorem planExtract_fails_iff {t : FileTree} {options : ExtractOptions} :
    PlanningFails t options ↔ ∃ e, (planExtract t options).result = .error e := by
  constructor
  · intro h
    cases hplan : (planExtract t options).result with
    | error e => exact ⟨e, rfl⟩
    | ok plan => exact absurd hplan (h.not_ok plan)
  · rintro ⟨e, h⟩
    exact .of_error h

/-! ## The verdict -/

theorem planTarget_outline (t : FileTree) (base : Path) (config : Config) (verbose : Bool)
    (target : Target) :
    planTarget t.outline base config verbose target = planTarget t base config verbose target := by
  simp only [planTarget, scanSources_outline]

/-- **A plan depends on the outline of the tree and on the configuration
    file.** -/
theorem planExtract_eq_of_outline {t t' : FileTree} {options : ExtractOptions}
    (h : t'.outline = t.outline)
    (hconfig : ∀ path, findConfig t options.root = some path → t'.read path = t.read path) :
    planExtract t' options = planExtract t options := by
  have htarget : planTarget t' = planTarget t := by
    funext base config verbose target
    rw [← planTarget_outline t', h, planTarget_outline]
  simp only [planExtract, loadConfig_eq_of_outline h hconfig, htarget]

theorem run_extract [TextMeasure] {arguments : List String} {options : ExtractOptions}
    (h : readArguments arguments = .ok (some (.extract options))) (t : FileTree) (date : String) :
    run t date arguments = .ok (runExtract t date options) := by
  rw [run, h]
  rfl

theorem runExtract_of_error [TextMeasure] {t : FileTree} {options : ExtractOptions} {e : RunError}
    (h : (planExtract t options).result = .error e) (date : String) :
    runExtract t date options = .aborted t [] (planExtract t options).log e := by
  unfold runExtract
  generalize planExtract t options = plan at h ⊢
  obtain ⟨log, result⟩ := plan
  subst h
  rfl

/-- **Planning is atomic.**  It fails exactly if the configuration, a source or
    a file of any target is at fault.  The run then ends with exit code 2, the
    tree is what it was, and nothing is printed.  What planning comes to is the
    same on all trees with one outline and one configuration file. -/
theorem planning_atomic [TextMeasure] {arguments : List String} {options : ExtractOptions}
    (haccepted : readArguments arguments = .ok (some (.extract options))) (t : FileTree)
    (date : String) :
    (PlanningFails t options ↔ ∃ e, (planExtract t options).result = .error e) ∧
    (PlanningFails t options →
      ∃ outcome, run t date arguments = .ok outcome ∧ outcome.status.code = 2 ∧
        outcome.tree = t ∧ outcome.stdout = []) ∧
    ∀ t' : FileTree, t'.outline = t.outline →
      (∀ path, findConfig t options.root = some path → t'.read path = t.read path) →
      (planExtract t' options).result = (planExtract t options).result := by
  refine ⟨planExtract_fails_iff, fun h => ?_, fun t' houtline hconfig => ?_⟩
  · obtain ⟨e, he⟩ := planExtract_fails_iff.1 h
    refine ⟨_, run_extract haccepted t date, ?_⟩
    rw [runExtract_of_error he]
    exact ⟨rfl, rfl, rfl⟩
  · rw [planExtract_eq_of_outline houtline hconfig]

/-! ## A project -/

/-- A directory with a configuration file and a script, in which a run starts. -/
def project (config script : String) : FileTree :=
  ⟨.folder true [(configFileName, .ofText config), ("a.js", .ofText script)], []⟩

theorem project_locate (config script : String) (purpose : Purpose) :
    (project config script).locate purpose ⟨"."⟩ = .ok [] ∧
      (project config script).locate purpose ⟨"/.potgenrc.json"⟩ = .ok [configFileName] ∧
      (project config script).locate purpose ⟨"/c.js"⟩ = .ok ["c.js"] := by
  refine ⟨?_, ?_, ?_⟩ <;>
    simp [FileTree.locate, Path.moves, splitSlash, Move.ofPart?, Path.endsInSlash, Path.isAbsolute,
      project, configFileName, FileTree.follow, Node.at?, Entries.find?, List.lookup_cons, Node.ofText]

theorem project_findConfig (config script : String) :
    findConfig (project config script) ⟨"."⟩ = some ⟨"/.potgenrc.json"⟩ := by
  obtain ⟨hdot, hconfig, -⟩ := project_locate config script .inspect
  have hstart : searchStart (project config script) ⟨"."⟩ = ⟨"/"⟩ := by
    rw [searchStart, FileTree.canonical, hdot]
    rfl
  have hjoin : Path.join ⟨"/"⟩ ⟨configFileName⟩ = ⟨"/.potgenrc.json"⟩ := by decide
  have hexists : (project config script).pathExists ⟨"/.potgenrc.json"⟩ = true := by
    rw [FileTree.pathExists, FileTree.resolve, hconfig]
    rfl
  rw [findConfig, hstart]
  simp only [searchConfig, hjoin, hexists, if_true]

theorem project_read (config script : String) :
    (project config script).read ⟨"/.potgenrc.json"⟩ = .ok config :=
  FileTree.read_of_locate (project_locate config script .inspect).2.1 rfl

theorem project_loadConfig {text : String} {config : Config} (hparse : Config.parse text = .ok config)
    (hvalid : config.validate = .ok ()) (script : String) :
    loadConfig (project text script) ⟨"."⟩ = .ok ⟨config, some ⟨"/.potgenrc.json"⟩⟩ := by
  unfold loadConfig
  rw [project_findConfig]
  simp [readConfigFile, project_read, hparse, hvalid, bind, Except.bind, Except.mapError, Except.map,
    pure, Except.pure]

/-- The last source of the last target is missing. -/
def lateFault : String := "\x7b\"targets\":\x7b\"a.pot\":[\"a.js\"],\"b.pot\":[\"a.js\",\"c.js\"]\x7d\x7d"

theorem lateFault_planningFails (script : String) :
    PlanningFails (project lateFault script) ⟨[], none, false, ⟨"."⟩, false⟩ := by
  let config : Config :=
    { Config.default with targets := [⟨"a.pot", ["a.js"]⟩, ⟨"b.pot", ["a.js", "c.js"]⟩] }
  have hparse : Config.parse lateFault = .ok config := rfl
  have hload := project_loadConfig hparse (by decide) script
  have hmissing : (project lateFault script).resolve ⟨"/c.js"⟩ = .error .notFound := by
    rw [FileTree.resolve, (project_locate lateFault script .inspect).2.2]
    rfl
  have hexpand : Scanner.ofSource ⟨project lateFault script, ⟨"/"⟩, [], config.extensionMap⟩ "c.js" =
      .error (.missingSource ⟨"/c.js"⟩) := by
    rw [Scanner.ofSource, if_neg (by decide), show Path.join ⟨"/"⟩ ⟨"c.js"⟩ = ⟨"/c.js"⟩ by decide]
    simp only [Scanner.ofPath, FileTree.isFolder, FileTree.isFile, hmissing]
    rfl
  exact .source hload rfl (List.mem_cons_of_mem _ (List.mem_cons_self ..)) (by decide) rfl hexpand

theorem lateFault_planning_atomic :
    PlanningFails (project lateFault "gettext('a');") ⟨[], none, false, ⟨"."⟩, false⟩ ∧
    (∃ outcome, run (project lateFault "gettext('a');") "2024-01-01 00:00+0000" ["extract"] =
        .ok outcome ∧
      outcome.status.code = 2 ∧ outcome.tree = project lateFault "gettext('a');" ∧
      outcome.stdout = []) ∧
    (planExtract (project lateFault "") ⟨[], none, false, ⟨"."⟩, false⟩).result =
      (planExtract (project lateFault "gettext('a');") ⟨[], none, false, ⟨"."⟩, false⟩).result := by
  have hfails := lateFault_planningFails "gettext('a');"
  have haccepted : readArguments ["extract"] =
      .ok (some (.extract ⟨[], none, false, ⟨"."⟩, false⟩)) := by decide
  obtain ⟨-, hatomic, hsame⟩ := planning_atomic haccepted (project lateFault "gettext('a');")
    "2024-01-01 00:00+0000"
  refine ⟨hfails, hatomic hfails, hsame (project lateFault "") rfl fun path hpath => ?_⟩
  cases (project_findConfig lateFault "gettext('a');").symm.trans hpath
  rw [project_read, project_read]

end PotCatalog
