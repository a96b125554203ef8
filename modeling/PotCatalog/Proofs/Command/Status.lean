/-
  The status of a run.

  The catalogs of a run are made one after another.  A `Turn` is a target and the
  tree that its catalog is built from, and `Delivers` says that the catalogs of
  all turns are printed or written.

  `completed_run_status`: a run that is not abandoned delivers the catalogs of
  all its targets and reports every issue that was raised, as often as it was
  raised.  Its exit code tells whether some file was in trouble when it was read.
-/
import PotCatalog.Proofs.Accounting
import PotCatalog.Proofs.Command.Printing

namespace PotCatalog

/-! ## Files in trouble -/

/-- Whether a file could not be read or parsed, or holds a rejected call. -/
def FileReading.isTroubled (job : Job) : FileReading → Bool
  | unread _ | unparsed _ _ => true
  | parsed _ calls => calls.any job.kind.markers.rejects

theorem FileReading.issues_eq_nil_iff (job : Job) (reading : FileReading) :
    reading.issues job = [] ↔ reading.isTroubled job = false := by
  cases reading with
  | unread | unparsed => simp [issues, isTroubled]
  | parsed source calls => simp [issues, isTroubled, List.filter_eq_nil_iff]

theorem FileReading.severity_of_mem_issues {job : Job} {reading : FileReading} {issue : Issue}
    (h : issue ∈ reading.issues job) : issue.severity = .error := by
  cases reading with
  | unread | unparsed =>
    rw [List.mem_singleton.1 h]
    rfl
  | parsed source calls =>
    obtain ⟨call, -, rfl⟩ := List.mem_map.1 h
    rfl

/-! ## Issues of a catalog -/

/-- The issues that are raised when a catalog is built: those of its files, and
    the conflicts between their calls. -/
def raisedIssues (t : FileTree) (base : Path) (jobs : List Job) : List Issue :=
  let calls := validCalls t base jobs
  jobs.flatMap (Job.expectedIssues t base) ++
    (calls.filterMap (ValidCall.conflict? calls)).map .pluralConflict

theorem buildCatalog_issues (t : FileTree) (base : Path) (jobs : List Job) :
    (buildCatalog t base jobs).issues = raisedIssues t base jobs := by
  rw [raisedIssues, ← dedupe_conflicts_messages, ← flatMap_runJob_messages, ← flatMap_runJob_issues]
  rfl

theorem countSeverity_append (severity : Severity) (xs ys : List Issue) :
    countSeverity severity (xs ++ ys) = countSeverity severity xs + countSeverity severity ys :=
  List.countP_append

theorem countSeverity_error_conflicts (conflicts : List PluralConflict) :
    countSeverity .error (conflicts.map .pluralConflict) = 0 := by
  refine List.countP_eq_zero.2 fun issue h => ?_
  obtain ⟨conflict, -, rfl⟩ := List.mem_map.1 h
  simp [Issue.severity]

theorem countSeverity_error_expectedIssues (t : FileTree) (base : Path) (job : Job) :
    countSeverity .error (job.expectedIssues t base) = 0 ↔
      (job.reading t base).isTroubled job = false := by
  rw [← FileReading.issues_eq_nil_iff]
  constructor
  · intro h
    refine List.eq_nil_iff_forall_not_mem.2 fun issue hissue => ?_
    have hsevere := List.countP_eq_zero.1 h issue hissue
    simp [FileReading.severity_of_mem_issues hissue] at hsevere
  · intro h
    rw [Job.expectedIssues, h]
    rfl

/-- The errors of a catalog come from files in trouble, and from no conflict. -/
theorem countSeverity_error_raisedIssues (t : FileTree) (base : Path) (jobs : List Job) :
    countSeverity .error (raisedIssues t base jobs) = 0 ↔
      ∀ job ∈ jobs, (job.reading t base).isTroubled job = false := by
  rw [raisedIssues, countSeverity_append, countSeverity_error_conflicts, Nat.add_zero]
  simp only [← countSeverity_error_expectedIssues, countSeverity, List.countP_eq_zero,
    List.mem_flatMap, forall_exists_index, and_imp]
  exact ⟨fun h job hjob issue hissue => h issue job hjob hissue,
    fun h issue job hjob hissue => h job hjob issue hissue⟩

theorem countSeverity_error_add_warning (issues : List Issue) :
    countSeverity .error issues + countSeverity .warning issues = issues.length := by
  unfold countSeverity
  induction issues with
  | nil => rfl
  | cons issue rest ih =>
    rw [List.countP_cons, List.countP_cons, List.length_cons]
    cases issue.severity <;> simp <;> omega

/-! ## Turns -/

/-- A target, and the tree when its turn comes. -/
structure Turn where
  tree : FileTree
  target : PlannedTarget

namespace Turn

/-- The catalog of a turn. -/
def text (base : Path) (date : String) (turn : Turn) : String :=
  turn.target.catalogText turn.tree base date

/-- The issues that are raised in a turn. -/
def raised (base : Path) (turn : Turn) : List Issue :=
  raisedIssues turn.tree base turn.target.jobs

/-- Whether a file of a turn is in trouble when it is read. -/
def isTroubled (base : Path) (turn : Turn) : Bool :=
  turn.target.jobs.any fun job => (job.reading turn.tree base).isTroubled job

end Turn

/-- The catalogs of turns are printed, or written, one after another. -/
inductive Delivers (toStdout : Bool) (date : String) (base : Path) :
    FileTree → List Turn → FileTree → Prop where
  | done {t} : Delivers toStdout date base t [] t
  | print {t target turns t'} (h : toStdout = true)
      (hrest : Delivers toStdout date base t turns t') :
      Delivers toStdout date base t (⟨t, target⟩ :: turns) t'
  | write {t names u target turns t'} (h : toStdout = false)
      (hfirst : t.Writes (base.join ⟨target.output⟩) names (Turn.text base date ⟨t, target⟩) u)
      (hrest : Delivers toStdout date base u turns t') :
      Delivers toStdout date base t (⟨t, target⟩ :: turns) t'

/-- Printing leaves the tree as it is. -/
theorem Delivers.of_stdout {date : String} {base : Path} {t t' : FileTree} {turns : List Turn}
    (h : Delivers true date base t turns t') : t' = t ∧ ∀ turn ∈ turns, turn.tree = t := by
  induction h with
  | done => exact ⟨rfl, by simp⟩
  | write h => cases h
  | print _ _ ih => exact ⟨ih.1, List.forall_mem_cons.2 ⟨rfl, ih.2⟩⟩

/-- Making catalogs delivers them, and takes note of all issues. -/
theorem makeCatalogs_delivers {date : String} {toStdout : Bool} {base : Path} {p q : Progress}
    {targets : List PlannedTarget} (h : makeCatalogs date toStdout base p targets = (q, .ok ())) :
    ∃ turns, turns.map Turn.target = targets ∧ Delivers toStdout date base p.tree turns q.tree ∧
      q.issues = p.issues ++ turns.flatMap (Turn.raised base) ∧
      (toStdout = true → q.printed = p.printed ++ String.join (turns.map (Turn.text base date))) := by
  induction targets generalizing p with
  | nil =>
    cases h
    exact ⟨[], rfl, .done, by simp, by simp⟩
  | cons target rest ih =>
    have hraised : (buildCatalog p.tree base target.jobs).issues =
        Turn.raised base ⟨p.tree, target⟩ := buildCatalog_issues ..
    cases toStdout with
    | true =>
      rw [makeCatalogs_cons_true] at h
      obtain ⟨turns, rfl, hdelivers, hissues, hprinted⟩ := ih h
      refine ⟨⟨p.tree, target⟩ :: turns, rfl, .print rfl hdelivers, ?_, fun _ => ?_⟩
      · rw [hissues, List.flatMap_cons, ← hraised]
        simp [Progress.note, Progress.print]
      · rw [hprinted rfl, List.map_cons, String.join_cons, ← String.append_assoc]
        rfl
    | false =>
      rw [makeCatalogs_cons_false] at h
      rcases writeOutput_cases p.tree (base.join ⟨target.output⟩)
        (target.catalogText p.tree base date) with ⟨names, t', hwrite, hwrites⟩ | ⟨t', e, hwrite, -⟩
      · rw [hwrite] at h
        obtain ⟨turns, rfl, hdelivers, hissues, -⟩ := ih h
        refine ⟨⟨p.tree, target⟩ :: turns, rfl, .write rfl hwrites hdelivers, ?_, by simp⟩
        rw [hissues, List.flatMap_cons, ← hraised]
        simp [Progress.note, Progress.withTree]
      · rw [hwrite] at h
        cases h

/-! ## The end of a run -/

/-- A run that is not abandoned has a plan and makes all its catalogs. -/
theorem exists_progress_of_completed [TextMeasure] {t : FileTree} {date : String}
    {options : ExtractOptions}
    (hdone : (runExtract t date options).status.code ≠ 2) :
    ∃ plan p, (planExtract t options).result = .ok plan ∧
      makeCatalogs date options.toStdout plan.base (.start t) plan.targets = (p, .ok ()) ∧
      runExtract t date options =
        finishExtract options.toStdout (planExtract t options).log p := by
  obtain ⟨plan, hplan⟩ := (runExtract_extracts t date options).exists_plan hdone
  rw [runExtract_of_ok hplan] at hdone ⊢
  cases hmade : makeCatalogs date options.toStdout plan.base (.start t) plan.targets with
  | mk p result =>
    cases result with
    | error e =>
      rw [hmade] at hdone
      exact absurd rfl hdone
    | ok => exact ⟨plan, p, hplan, hmade, rfl⟩

theorem finishExtract_status [TextMeasure] (toStdout : Bool) (log : StyledText) (p : Progress) :
    (finishExtract toStdout log p).status =
      if (report (Issue.sort p.issues)).isComplete then finalStatus (Issue.sort p.issues)
      else .crashed := by
  unfold finishExtract
  dsimp only
  split_ifs <;> rfl

theorem finishExtract_stderr [TextMeasure] (toStdout : Bool) (log : StyledText) (p : Progress) :
    ∃ summaries, (finishExtract toStdout log p).stderr =
      log ++ (report (Issue.sort p.issues)).text ++ summaries := by
  unfold finishExtract
  dsimp only
  split_ifs
  · exact ⟨_, rfl⟩
  · exact ⟨_, rfl⟩
  · exact ⟨[], by simp⟩

theorem finalStatus_code (issues : List Issue) :
    (finalStatus issues).code = if countSeverity .error issues = 0 then 0 else 1 := by
  unfold finalStatus
  split_ifs <;> rfl

theorem countSeverity_perm {xs ys : List Issue} (h : xs.Perm ys) (severity : Severity) :
    countSeverity severity xs = countSeverity severity ys :=
  h.countP_eq _

theorem countSeverity_error_turns {base : Path} {turns : List Turn} :
    countSeverity .error (turns.flatMap (Turn.raised base)) = 0 ↔
      ∀ turn ∈ turns, turn.isTroubled base = false := by
  have hturn (turn : Turn) : turn.isTroubled base = false ↔
      countSeverity .error (turn.raised base) = 0 := by
    rw [Turn.raised, countSeverity_error_raisedIssues, Turn.isTroubled]
    simp
  simp only [hturn, countSeverity, List.countP_eq_zero, List.mem_flatMap, forall_exists_index, and_imp]
  exact ⟨fun h turn hmem issue hissue => h issue turn hmem hissue,
    fun h issue turn hmem hissue => h turn hmem issue hissue⟩

/-- **The status of a run.**  A run that is not abandoned delivers the catalogs of
    all its targets.  The issues in its report are those that were raised, each as
    often as it was raised, and each is an error or a warning.  Unless printing the
    report breaks down, the exit code is 1 if some file was in trouble when it was
    read, and 0 if none was, whatever conflicts there are. -/
theorem completed_run_status [TextMeasure] {arguments : List String} {options : ExtractOptions}
    (haccepted : readArguments arguments = .ok (some (.extract options))) {t : FileTree}
    {date : String} {outcome : Outcome} (hrun : run t date arguments = .ok outcome)
    (hdone : outcome.status.code ≠ 2) :
    ∃ plan turns issues summaries,
      (planExtract t options).result = .ok plan ∧
      turns.map Turn.target = plan.targets ∧
      Delivers options.toStdout date plan.base t turns outcome.tree ∧
      (options.toStdout = true →
        outcome.stdout = [plain (String.join (turns.map (Turn.text plan.base date)))]) ∧
      outcome.stderr = (planExtract t options).log ++ (report issues).text ++ summaries ∧
      issues.Perm (turns.flatMap (Turn.raised plan.base)) ∧
      countSeverity .error issues + countSeverity .warning issues = issues.length ∧
      outcome.status = (if (report issues).isComplete then finalStatus issues else .crashed) ∧
      ((finalStatus issues).code = 1 ↔ ∃ turn ∈ turns, turn.isTroubled plan.base = true) ∧
      ((finalStatus issues).code = 0 ↔ ∀ turn ∈ turns, turn.isTroubled plan.base = false) ∧
      ∀ conflicts : List PluralConflict,
        finalStatus (issues ++ conflicts.map .pluralConflict) = finalStatus issues := by
  rw [run_extract haccepted] at hrun
  obtain rfl := Except.ok.inj hrun
  obtain ⟨plan, p, hplan, hmade, hfinish⟩ := exists_progress_of_completed hdone
  obtain ⟨turns, hturns, hdelivers, hissues, hprinted⟩ := makeCatalogs_delivers hmade
  obtain ⟨summaries, hstderr⟩ :=
    finishExtract_stderr options.toStdout (planExtract t options).log p
  have hperm : (Issue.sort p.issues).Perm (turns.flatMap (Turn.raised plan.base)) := by
    rw [hissues]
    exact List.mergeSort_perm _ _
  have hclean : countSeverity .error (Issue.sort p.issues) = 0 ↔
      ∀ turn ∈ turns, turn.isTroubled plan.base = false := by
    rw [countSeverity_perm hperm, countSeverity_error_turns]
  rw [hfinish]
  refine ⟨plan, turns, Issue.sort p.issues, summaries, hplan, hturns, ?_, ?_, hstderr, hperm,
    countSeverity_error_add_warning _, finishExtract_status .., ?_, ?_, ?_⟩
  · rw [finishExtract_tree]
    exact hdelivers
  · intro hstdout
    rw [hstdout, finishExtract_stdout, hprinted hstdout]
    simp [Progress.start]
  · rw [finalStatus_code, ← not_iff_not]
    simp [hclean]
  · rw [finalStatus_code, ← hclean]
    simp
  · intro conflicts
    rw [finalStatus, finalStatus, countSeverity_append, countSeverity_error_conflicts,
      Nat.add_zero]

/-! ## A rejected call -/

/-- A script with a call whose argument is no text. -/
def refusedCall : FileTree := project "\x7b\x7d" "gettext(x);"

/-- The issue of that call. -/
def refusedCallIssue : Issue := .invalidCall (Context.of "a.js" "gettext(x);" ⟨1, 1⟩) .nonLiteral

theorem refusedCall_reading :
    (Job.mk "a.js" .script).reading refusedCall ⟨"."⟩ =
      .parsed "gettext(x);" [⟨some "gettext", ⟨1, 1⟩, [.expression]⟩] := by
  have hjoin : Path.join ⟨"."⟩ ⟨"a.js"⟩ = ⟨"./a.js"⟩ := by decide
  have hread : refusedCall.read (Path.join ⟨"."⟩ ⟨"a.js"⟩) = .ok "gettext(x);" := by
    rw [hjoin]
    exact FileTree.read_of_locate (emptyConfig_locate "gettext(x);" .inspect).2.1 rfl
  exact Job.reading_of_sites ⟨"a.js", .script⟩ hread (by decide +kernel)

theorem refusedCall_raised :
    raisedIssues refusedCall ⟨"."⟩ [⟨"a.js", .script⟩] = [refusedCallIssue] := by
  simp only [raisedIssues, validCalls, List.flatMap_singleton, Job.expectedIssues,
    refusedCall_reading]
  rfl

theorem refusedCall_planExtract :
    (planExtract refusedCall ⟨["a.js"], none, true, ⟨"."⟩, false⟩).result =
      .ok ⟨⟨"."⟩, [⟨"messages.pot", [⟨"a.js", .script⟩]⟩]⟩ :=
  emptyConfig_planExtract "gettext(x);" true

theorem refusedCall_completed_run_status :
    ∃ outcome,
      run refusedCall "2024-01-01 00:00+0000" ["extract", "a.js", "--stdout"] = .ok outcome ∧
      outcome.status.code ≠ 2 ∧ outcome.tree = refusedCall ∧ outcome.status.code = 1 := by
  have haccepted : readArguments ["extract", "a.js", "--stdout"] =
      .ok (some (.extract ⟨["a.js"], none, true, ⟨"."⟩, false⟩)) := by decide
  have hrun := run_extract haccepted refusedCall "2024-01-01 00:00+0000"
  have hdone : (runExtract refusedCall "2024-01-01 00:00+0000"
      ⟨["a.js"], none, true, ⟨"."⟩, false⟩).status.code ≠ 2 := by
    rw [runExtract_of_ok refusedCall_planExtract, makeCatalogs_stdout]
    exact finishExtract_code_ne _ _ _
  obtain ⟨plan, turns, issues, summaries, hplan, hturns, hdelivers, -, -, hperm, -, hstatus, hone, -⟩ :=
    completed_run_status haccepted hrun hdone
  cases refusedCall_planExtract.symm.trans hplan
  obtain ⟨htree, hturn⟩ := hdelivers.of_stdout
  obtain ⟨⟨tree, target⟩, rfl, rfl⟩ := List.map_eq_singleton_iff.1 hturns
  obtain rfl : tree = refusedCall := hturn _ List.mem_cons_self
  rw [List.flatMap_singleton, Turn.raised, refusedCall_raised] at hperm
  obtain rfl := List.perm_singleton.1 hperm
  have hcomplete : (report [refusedCallIssue]).isComplete = true := by decide
  have htroubled : Turn.isTroubled ⟨"."⟩ ⟨refusedCall, ⟨"messages.pot", [⟨"a.js", .script⟩]⟩⟩ = true := by
    simp only [Turn.isTroubled, List.any_cons, refusedCall_reading]
    rfl
  refine ⟨_, hrun, hdone, htree, ?_⟩
  rw [hstatus, hcomplete, if_pos rfl]
  exact hone.2 ⟨_, List.mem_cons_self, htroubled⟩

end PotCatalog
