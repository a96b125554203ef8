/-
  Printing catalogs instead of writing them.

  A run over given sources makes one catalog.  Whether it is printed or written,
  the plan is the same up to the path of the catalog (`planExtract_verdict`), and
  so are the text, the issues, the counts and the status
  (`printing_agrees_with_writing`).
-/
import PotCatalog.Proofs.Command.Writing

namespace PotCatalog

/-! ## Plans for given sources -/

/-- What a plan comes to, apart from the paths of its catalogs. -/
def Plan.verdict (plan : Plan) : Path × List (List Job) := (plan.base, plan.targets.map (·.jobs))

theorem Scanner.scanFrom_result_congr (s : Scanner) (verbose verbose' : Bool) (scan : Scan)
    (sources : List String) :
    (s.scanFrom verbose scan sources).result = (s.scanFrom verbose' scan sources).result := by
  induction sources generalizing scan with
  | nil => rfl
  | cons source rest ih =>
    simp only [scanFrom, Logged.result_bind]
    exact bind_congr fun found => bind_congr fun _ => ih (scan.add found)

theorem scanSources_result_congr (t : FileTree) (base : Path) (sources ignores : List String)
    (extensions : ExtensionMap) (verbose verbose' : Bool) :
    (scanSources t base sources ignores extensions verbose).result =
      (scanSources t base sources ignores extensions verbose').result := by
  simp only [scanSources, Logged.result_bind]
  exact bind_congr fun patterns => Scanner.scanFrom_result_congr _ verbose verbose' _ sources

theorem planTarget_result (t : FileTree) (base : Path) (config : Config) (verbose : Bool)
    (target : Target) :
    (planTarget t base config verbose target).result = (do
      let scan ← (scanSources t base target.sources config.ignores config.extensionMap verbose).result
      let jobs ← planFiles config.extensionMap scan.files
      return ⟨target.output, jobs⟩) := by
  simp only [planTarget, Logged.result_bind]
  rfl

theorem planExtract_result (t : FileTree) (options : ExtractOptions) :
    (planExtract t options).result = (do
      let loaded ← loadConfig t options.root
      let (base, targets) ← chooseTargets options loaded
      let planned ← targets.mapM (planTarget t base loaded.config options.verbose · |>.result)
      return ⟨base, planned⟩) := by
  simp only [planExtract, Logged.result_bind, Logged.result_mapM]
  rfl

/-- **The verdict of planning** depends on the sources and the root only. -/
theorem planExtract_verdict {options : ExtractOptions} (h : options.sources ≠ []) (t : FileTree) :
    (planExtract t options).result.map Plan.verdict = (do
      let loaded ← loadConfig t options.root
      let config := loaded.config
      let scan ← (scanSources t options.root options.sources config.ignores config.extensionMap
        false).result
      let jobs ← planFiles config.extensionMap scan.files
      return (options.root, [jobs])) := by
  rw [planExtract_result]
  cases loadConfig t options.root with
  | error e => rfl
  | ok loaded =>
    have hchoose : chooseTargets options loaded =
        .ok (options.root, [⟨options.output.getD defaultOutput, options.sources⟩]) :=
      if_pos (by simpa using h)
    simp only [bind, Except.bind, hchoose, List.mapM_cons, List.mapM_nil, planTarget_result,
      scanSources_result_congr t _ _ _ _ options.verbose false]
    cases (scanSources t options.root options.sources loaded.config.ignores
      loaded.config.extensionMap false).result with
    | error e => rfl
    | ok scan =>
      dsimp only
      cases planFiles loaded.config.extensionMap scan.files <;> rfl

theorem planExtract_verdict_congr {options options' : ExtractOptions} (h : options.sources ≠ [])
    (hsources : options'.sources = options.sources) (hroot : options'.root = options.root)
    (t : FileTree) :
    (planExtract t options').result.map Plan.verdict =
      (planExtract t options).result.map Plan.verdict := by
  rw [planExtract_verdict h, planExtract_verdict (hsources ▸ h), hsources, hroot]

/-- Plans for the same sources in the same directory have the same jobs. -/
theorem planExtract_same_jobs {t : FileTree} {options options' : ExtractOptions} {plan : Plan}
    (hsources : options.sources ≠ []) (hsame : options'.sources = options.sources)
    (hroot : options'.root = options.root) (hplan : (planExtract t options).result = .ok plan) :
    ∃ jobs, plan = ⟨options.root, [⟨options.output.getD defaultOutput, jobs⟩]⟩ ∧
      (planExtract t options').result =
        .ok ⟨options.root, [⟨options'.output.getD defaultOutput, jobs⟩]⟩ := by
  have hverdict := planExtract_verdict_congr hsources hsame hroot t
  obtain ⟨jobs, rfl⟩ := planExtract_single hsources hplan
  cases hplan' : (planExtract t options').result with
  | error e => simp [hplan, hplan', Except.map] at hverdict
  | ok plan' =>
    obtain ⟨jobs', rfl⟩ := planExtract_single (hsame ▸ hsources) hplan'
    obtain rfl : jobs' = jobs := by
      simpa [hplan, hplan', Except.map, Plan.verdict, hroot] using hverdict
    exact ⟨jobs', rfl, by rw [hroot]⟩

/-- The targets of a plan without sources are those of the configuration. -/
theorem planExtract_configured {t : FileTree} {options : ExtractOptions} {plan : Plan}
    (hsources : options.sources = []) (hplan : (planExtract t options).result = .ok plan) :
    ∃ loaded, loadConfig t options.root = .ok loaded ∧
      List.Forall₂ (PlannedTarget.For t plan.base loaded.config options.verbose)
        loaded.config.targets plan.targets := by
  obtain ⟨base, targets⟩ := plan
  obtain ⟨loaded, chosen, hload, hchoose, hplanned⟩ := planExtract_eq_ok_iff.1 hplan
  refine ⟨loaded, hload, ?_⟩
  unfold chooseTargets at hchoose
  simp only [hsources, List.isEmpty_nil, Bool.not_true, Bool.false_eq_true, if_false] at hchoose
  split_ifs at hchoose
  cases hchoose
  exact hplanned

/-! ## The ends of runs -/

theorem finishExtract_stdout [TextMeasure] (log : StyledText) (p : Progress) :
    (finishExtract true log p).stdout = [plain p.printed] := by
  unfold finishExtract
  cases h : (report (Issue.sort p.issues)).isComplete <;> simp [h]

/-- The status of a run depends on its issues only. -/
theorem finishExtract_status_congr [TextMeasure] {p q : Progress} (h : p.issues = q.issues)
    (toStdout toStdout' : Bool) (log log' : StyledText) :
    (finishExtract toStdout log p).status = (finishExtract toStdout' log' q).status := by
  unfold finishExtract
  rw [h]
  dsimp only
  cases (report (Issue.sort q.issues)).isComplete <;> rfl

section
variable {t : FileTree} {date : String} {options : ExtractOptions} {outcome : Outcome}

/-- A run that comes to its end had a plan. -/
theorem Extracts.exists_plan [TextMeasure] (h : Extracts t date options outcome)
    (hdone : outcome.status.code ≠ 2) : ∃ plan, (planExtract t options).result = .ok plan := by
  cases h with
  | unplanned => exact absurd rfl hdone
  | printed hplan | written hplan | stopped hplan => exact ⟨_, hplan⟩

theorem Extracts.tree_of_stdout [TextMeasure] (h : Extracts t date options outcome)
    (hstdout : options.toStdout = true) : outcome.tree = t := by
  cases h with
  | unplanned => rfl
  | printed => exact finishExtract_tree ..
  | written _ hfalse | stopped _ hfalse => simp [hstdout] at hfalse

/-- A run that prints, and has a plan, prints the catalogs of all its targets. -/
theorem Extracts.eq_of_stdout [TextMeasure] {plan : Plan} (h : Extracts t date options outcome)
    (hstdout : options.toStdout = true) (hplan : (planExtract t options).result = .ok plan) :
    outcome = finishExtract true (planExtract t options).log
      { tree := t
        printed := String.join (plan.targets.map (·.catalogText t plan.base date))
        summaries := plan.targets.map (·.summary t plan.base)
        issues := plan.targets.flatMap (buildCatalog t plan.base ·.jobs |>.issues) } := by
  cases h with
  | unplanned hfails => simp [hplan] at hfails
  | written _ hfalse | stopped _ hfalse => simp [hstdout] at hfalse
  | printed hplanned =>
    cases hplan.symm.trans hplanned
    rfl

end

theorem writes_of_makeCatalogs {date : String} {base : Path} {t : FileTree} {target : PlannedTarget}
    {p : Progress} (hmade : makeCatalogs date false base (.start t) [target] = (p, .ok ()))
    (hwrites : WritesAll date base t [target] p.tree) :
    ∃ names, t.Writes (base.join ⟨target.output⟩) names (target.catalogText t base date) p.tree ∧
      p = ⟨p.tree, "", [target.summary t base], (buildCatalog t base target.jobs).issues⟩ := by
  cases hwrites with
  | cons hfirst hrest =>
    cases hrest
    refine ⟨_, hfirst, ?_⟩
    rw [makeCatalogs_cons_false] at hmade
    split at hmade
    · cases hmade
    · cases hmade
      rfl

/-- One run prints a catalog, and another one writes it to the file that a path
    leads to.  Both have the same issues, counts and status. -/
structure SameCatalog [TextMeasure] (t : FileTree) (data : CatalogData) (text : String)
    (path : Path) (printed written : Outcome) : Prop where
  stdout : printed.stdout = [plain text]
  writes : ∃ names, t.Writes path names text written.tree
  read : written.tree.read path = .ok text
  status : written.status = printed.status
  ends : ∃ log output log' output',
    printed = finishExtract true log
      ⟨t, text, [⟨output, data.messages.length, data.fileCount⟩], data.issues⟩ ∧
    written = finishExtract false log'
      ⟨written.tree, "", [⟨output', data.messages.length, data.fileCount⟩], data.issues⟩

theorem Extracts.sameCatalog [TextMeasure] {t : FileTree} {date : String}
    {printing writing : ExtractOptions} {base : Path} {output output' : String} {jobs : List Job}
    {printed written : Outcome}
    (hprinted : Extracts t date printing printed) (hwritten : Extracts t date writing written)
    (hprinting : printing.toStdout = true) (hwriting : writing.toStdout = false)
    (hplan : (planExtract t printing).result = .ok ⟨base, [⟨output, jobs⟩]⟩)
    (hplan' : (planExtract t writing).result = .ok ⟨base, [⟨output', jobs⟩]⟩)
    (hdone : written.status.code ≠ 2) :
    SameCatalog t (buildCatalog t base jobs) (catalog (buildCatalog t base jobs).messages date)
      (base.join ⟨output'⟩) printed written := by
  have hprints := hprinted.eq_of_stdout hprinting hplan
  simp only [List.map_cons, List.map_nil, List.flatMap_cons, List.flatMap_nil, List.append_nil,
    String.join_cons, String.join_nil, String.append_empty] at hprints
  subst hprints
  cases hwritten with
  | unplanned hfails => simp [hplan'] at hfails
  | printed _ hstdout => simp [hwriting] at hstdout
  | stopped => exact absurd rfl hdone
  | written hplanned _ hmade hwrites =>
    cases hplan'.symm.trans hplanned
    obtain ⟨names, hwrite, hp⟩ := writes_of_makeCatalogs hmade hwrites
    refine ⟨finishExtract_stdout .., ?_, ?_, ?_, ?_⟩
    · rw [finishExtract_tree]
      exact ⟨names, hwrite⟩
    · rw [finishExtract_tree]
      exact hwrite.read_eq
    · apply finishExtract_status_congr
      rw [hp]
    · refine ⟨_, output, (planExtract t writing).log, output', rfl, ?_⟩
      rw [finishExtract_tree]
      exact congrArg _ hp

/-- **Printing and writing agree.**  A run that prints leaves the tree as it is.
    Over given sources its plan is that of a run that writes; if both runs come to
    their end, it prints what the other one writes, and both end alike.  Without
    sources it prints the catalogs of all targets in their order. -/
theorem printing_agrees_with_writing [TextMeasure] {a : List String} {printing : ExtractOptions}
    (ha : readArguments a = .ok (some (.extract printing))) (hprinting : printing.toStdout = true)
    {t : FileTree} {date : String} {printed : Outcome} (hprinted : run t date a = .ok printed) :
    printed.tree = t ∧
    (printing.sources ≠ [] → ∀ b writing written,
      readArguments b = .ok (some (.extract writing)) → writing.toStdout = false →
      writing.sources = printing.sources → writing.root = printing.root →
      run t date b = .ok written →
      (planExtract t writing).result.map Plan.verdict =
          (planExtract t printing).result.map Plan.verdict ∧
        (printed.status.code ≠ 2 → written.status.code ≠ 2 → ∃ jobs,
          (planExtract t printing).result.map Plan.verdict = .ok (printing.root, [jobs]) ∧
          SameCatalog t (buildCatalog t printing.root jobs)
            (catalog (buildCatalog t printing.root jobs).messages date)
            (printing.root.join ⟨writing.output.getD defaultOutput⟩) printed written)) ∧
    (printing.sources = [] → printed.status.code ≠ 2 → ∃ loaded plan,
      loadConfig t printing.root = .ok loaded ∧ (planExtract t printing).result = .ok plan ∧
      List.Forall₂ (PlannedTarget.For t plan.base loaded.config printing.verbose)
        loaded.config.targets plan.targets ∧
      printed.stdout = [plain (String.join (plan.targets.map (·.catalogText t plan.base date)))]) := by
  rw [run_extract ha] at hprinted
  have hextracts := runExtract_extracts t date printing
  rw [Except.ok.inj hprinted] at hextracts
  refine ⟨hextracts.tree_of_stdout hprinting, ?_, ?_⟩
  · intro hsources b writing written hb hwriting hsame hroot hwritten
    refine ⟨planExtract_verdict_congr hsources hsame hroot t, fun hdone hdone' => ?_⟩
    rw [run_extract hb] at hwritten
    have hextracts' := runExtract_extracts t date writing
    rw [Except.ok.inj hwritten] at hextracts'
    obtain ⟨plan, hplan⟩ := hextracts.exists_plan hdone
    obtain ⟨jobs, rfl, hplan'⟩ := planExtract_same_jobs hsources hsame hroot hplan
    refine ⟨jobs, by rw [hplan]; rfl, ?_⟩
    exact hextracts.sameCatalog hextracts' hprinting hwriting hplan hplan' hdone'
  · intro hsources hdone
    obtain ⟨plan, hplan⟩ := hextracts.exists_plan hdone
    obtain ⟨loaded, hload, hplanned⟩ := planExtract_configured hsources hplan
    refine ⟨loaded, plan, hload, hplan, hplanned, ?_⟩
    rw [hextracts.eq_of_stdout hprinting hplan, finishExtract_stdout]

/-! ## One script -/

theorem emptyConfig_locate (script : String) (purpose : Purpose) :
    (project "\x7b\x7d" script).locate purpose ⟨"."⟩ = .ok [] ∧
      (project "\x7b\x7d" script).locate purpose ⟨"./a.js"⟩ = .ok ["a.js"] ∧
      (project "\x7b\x7d" script).locate purpose ⟨"./messages.pot"⟩ = .ok ["messages.pot"] := by
  refine ⟨?_, ?_, ?_⟩ <;>
    simp [FileTree.locate, Path.moves, splitSlash, Move.ofPart?, Path.endsInSlash, Path.isAbsolute,
      project, configFileName, FileTree.follow, Node.at?, Entries.find?, List.lookup_cons, Node.ofText]

theorem emptyConfig_planExtract (script : String) (toStdout : Bool) :
    (planExtract (project "\x7b\x7d" script) ⟨["a.js"], none, toStdout, ⟨"."⟩, false⟩).result =
      .ok ⟨⟨"."⟩, [⟨"messages.pot", [⟨"a.js", .script⟩]⟩]⟩ := by
  have hparse : Config.parse "\x7b\x7d" = .ok .default := rfl
  have hload := project_loadConfig hparse (by decide) script
  have hnode : (project "\x7b\x7d" script).resolve ⟨"./a.js"⟩ = .ok (.ofText script) :=
    FileTree.resolve_eq_ok_iff.2 ⟨_, (emptyConfig_locate script .inspect).2.1, rfl⟩
  have hfolder : (project "\x7b\x7d" script).isFolder ⟨"./a.js"⟩ = false := by
    rw [FileTree.isFolder, hnode]
    rfl
  have hfile : (project "\x7b\x7d" script).isFile ⟨"./a.js"⟩ = true := by
    rw [FileTree.isFile, hnode]
    rfl
  have hname : displayPath ⟨"."⟩ ⟨"./a.js"⟩ = "a.js" := by decide
  have hfound : Scanner.ofSource
      ⟨project "\x7b\x7d" script, ⟨"."⟩, [], Config.default.extensionMap⟩ "a.js" =
      .ok ⟨["a.js"], []⟩ := by
    rw [Scanner.ofSource, if_neg (by decide), show Path.join ⟨"."⟩ ⟨"a.js"⟩ = ⟨"./a.js"⟩ by decide]
    simp [Scanner.ofPath, hfolder, hfile, Scanner.nameOf, hname, Found.file]
  refine planExtract_eq_ok_iff.2 ⟨_, _, hload, rfl, .cons ⟨rfl, ⟨["a.js"], 0⟩, ?_, by decide⟩ .nil⟩
  exact Logged.bind_result_eq_ok.2 ⟨[], rfl, Logged.bind_result_eq_ok.2 ⟨_, hfound, rfl⟩⟩

/-- A project with an empty configuration. -/
def oneScript : FileTree := project "\x7b\x7d" "gettext('a');"

theorem oneScript_locate (purpose : Purpose) :
    oneScript.locate purpose ⟨"."⟩ = .ok [] ∧ oneScript.locate purpose ⟨"./a.js"⟩ = .ok ["a.js"] ∧
      oneScript.locate purpose ⟨"./messages.pot"⟩ = .ok ["messages.pot"] :=
  emptyConfig_locate _ purpose

theorem oneScript_planExtract (toStdout : Bool) :
    (planExtract oneScript ⟨["a.js"], none, toStdout, ⟨"."⟩, false⟩).result =
      .ok ⟨⟨"."⟩, [⟨"messages.pot", [⟨"a.js", .script⟩]⟩]⟩ :=
  emptyConfig_planExtract _ toStdout

theorem oneScript_writeOutput (text : String) :
    ∃ t', writeOutput oneScript ⟨"./messages.pot"⟩ text = (t', .ok ()) := by
  have hfolder : oneScript.isFolder ⟨"."⟩ = true := by
    rw [FileTree.isFolder, FileTree.resolve, (oneScript_locate .inspect).1]
    rfl
  have hparent : makeParent oneScript ⟨"./messages.pot"⟩ = (oneScript, .ok ()) := by
    rw [makeParent_of_entry (by decide) (oneScript_locate .entry).1 rfl, if_pos hfolder]
  have hwrite : ∃ t', oneScript.write ⟨"./messages.pot"⟩ text.toUTF8 = .ok t' := by
    rw [FileTree.write, (oneScript_locate .write).2.2]
    exact ⟨_, rfl⟩
  obtain ⟨t', hwrite⟩ := hwrite
  rw [writeOutput, hparent]
  simp only [hwrite]
  exact ⟨t', rfl⟩

theorem oneScript_completes (date : String) (toStdout : Bool) :
    (runExtract oneScript date ⟨["a.js"], none, toStdout, ⟨"."⟩, false⟩).status.code ≠ 2 := by
  rw [runExtract_of_ok (oneScript_planExtract toStdout)]
  cases toStdout with
  | true =>
    rw [makeCatalogs_stdout]
    exact finishExtract_code_ne _ _ _
  | false =>
    obtain ⟨t', hwrite⟩ := oneScript_writeOutput
      (PlannedTarget.catalogText ⟨"messages.pot", [⟨"a.js", .script⟩]⟩ oneScript ⟨"."⟩ date)
    simp only [makeCatalogs_cons_false, Progress.start,
      show Path.join ⟨"."⟩ ⟨"messages.pot"⟩ = ⟨"./messages.pot"⟩ by decide, hwrite]
    exact finishExtract_code_ne _ _ _

theorem oneScript_printing_agrees_with_writing :
    ∃ printed written jobs,
      run oneScript "2024-01-01 00:00+0000" ["extract", "a.js", "--stdout"] = .ok printed ∧
      run oneScript "2024-01-01 00:00+0000" ["extract", "a.js"] = .ok written ∧
      printed.tree = oneScript ∧
      SameCatalog oneScript (buildCatalog oneScript ⟨"."⟩ jobs)
        (catalog (buildCatalog oneScript ⟨"."⟩ jobs).messages "2024-01-01 00:00+0000")
        (Path.join ⟨"."⟩ ⟨"messages.pot"⟩) printed written := by
  have ha : readArguments ["extract", "a.js", "--stdout"] =
      .ok (some (.extract ⟨["a.js"], none, true, ⟨"."⟩, false⟩)) := by decide
  have hb : readArguments ["extract", "a.js"] =
      .ok (some (.extract ⟨["a.js"], none, false, ⟨"."⟩, false⟩)) := by decide
  have hprinted := run_extract ha oneScript "2024-01-01 00:00+0000"
  have hwritten := run_extract hb oneScript "2024-01-01 00:00+0000"
  obtain ⟨htree, hsources, -⟩ := printing_agrees_with_writing ha rfl hprinted
  obtain ⟨-, hagree⟩ := hsources (by decide) _ _ _ hb rfl rfl rfl hwritten
  obtain ⟨jobs, -, hsame⟩ := hagree (oneScript_completes _ true) (oneScript_completes _ false)
  exact ⟨_, _, jobs, hprinted, hwritten, htree, hsame⟩

end PotCatalog
