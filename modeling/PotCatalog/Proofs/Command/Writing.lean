/-
  Writing catalogs.

  `FileTree.Writes` says what it means to write a file: the text can be read
  back, no other file changes, and directories are made above it only.
  `WritesAll` writes catalogs one after another, each built from the files that
  are there when its turn comes.

  A run that is abandoned has failed at one target, and the catalogs of the
  targets before it are written (`aborted_run_writes`).
-/
import Mathlib.Logic.Relation
import PotCatalog.Proofs.Command.Planning
import PotCatalog.Proofs.Files.Change

namespace PotCatalog

/-! ## Writing one file -/

/-- A path is above another one: it is the parent of that one, or above the
    parent. -/
def Path.IsAbove (q p : Path) : Prop := Relation.TransGen (fun a b => a.parent? = some b) p q

theorem Path.isAbove_of_mem_above {fuel : Nat} {p q : Path} (h : q ∈ Path.above fuel p) :
    q.IsAbove p := by
  induction fuel generalizing p with
  | zero => simp [Path.above] at h
  | succ fuel ih =>
    rw [Path.above] at h
    cases hparent : p.parent? with
    | none => simp [hparent] at h
    | some parent =>
      rw [hparent] at h
      rcases List.mem_cons.1 h with rfl | h
      · exact .single hparent
      · exact .head hparent (ih h)

namespace FileTree

/-- Two trees hold the same files. -/
def SameFiles (t t' : FileTree) : Prop :=
  ∀ place content,
    t'.root.at? place = some (.file content) ↔ t.root.at? place = some (.file content)

/-- A change that writes a text to the file that a path leads to from then on.
    It may make directories above the path; all else stays as it is. -/
structure Writes (t : FileTree) (path : Path) (names : List String) (text : String)
    (t' : FileTree) : Prop where
  workingDir : t'.workingDir = t.workingDir
  before : ∀ node, t.root.at? names = some node → node.isFile = true
  after : t'.root.at? names = some (.ofText text)
  leads : t'.locate .inspect path = .ok names
  other : ∀ place, place ≠ names → KeptOrAdded (·.IsAbove path) t t' place

variable {t t' made : FileTree} {path : Path} {names : List String} {text : String}

theorem FoldersAdded.sameFiles {kind : Path → Prop} (h : FoldersAdded kind t t') :
    t.SameFiles t' := by
  intro place content
  rw [← Node.faceAt?_eq_some_iff rfl, ← Node.faceAt?_eq_some_iff rfl]
  rcases h.places place with hsame | ⟨hbefore, hafter, -⟩
  · rw [hsame]
  · simp [hbefore, hafter, Node.emptyFolder]

theorem Writes.read_eq (h : t.Writes path names text t') : t'.read path = .ok text :=
  read_of_locate h.leads h.after

theorem FoldersAdded.writes (h : FoldersAdded (·.IsAbove path) t made)
    (hsets : made.Sets path names (.ofText text) t') : t.Writes path names text t' := by
  refine ⟨hsets.workingDir.trans h.workingDir, ?_, hsets.after, hsets.leads, ?_⟩
  · intro node hnode
    rcases h.places names with hsame | ⟨hfree, -⟩
    · rw [Node.faceAt?, Node.faceAt?, hnode, Option.map_some, Option.map_eq_some_iff] at hsame
      obtain ⟨old, hold, hface⟩ := hsame
      have hfile := hsets.before old hold
      cases old with
      | link | folder => simp [Node.isFile] at hfile
      | file => cases node <;> simp_all [Node.face, Node.isFile]
    · rw [Node.faceAt?_eq_none_iff.1 hfree] at hnode
      cases hnode
  · intro place hplace
    exact (h.places place).keep hsets.workingDir hsets.keepsWays (hsets.other place hplace)

end FileTree

theorem makeParent_foldersAdded (t : FileTree) (path : Path) :
    FileTree.FoldersAdded (·.IsAbove path) t (makeParent t path).1 := by
  unfold makeParent
  cases hparent : path.parent? with
  | none => exact .refl _ t
  | some parent =>
    dsimp only
    split_ifs
    · exact .refl _ t
    · refine t.makeFolders_foldersAdded fun q hq => ?_
      rcases List.mem_cons.1 hq with rfl | hq
      · exact .single hparent
      · exact .head hparent (Path.isAbove_of_mem_above (List.mem_of_mem_filter hq))

/-- **Writing a catalog** writes its file or, where that fails, changes no
    file. -/
theorem writeOutput_cases (t : FileTree) (path : Path) (text : String) :
    (∃ names t', writeOutput t path text = (t', .ok ()) ∧ t.Writes path names text t') ∨
      ∃ t' e, writeOutput t path text = (t', .error e) ∧ t.SameFiles t' := by
  have hadded := makeParent_foldersAdded t path
  unfold writeOutput
  generalize makeParent t path = result at hadded
  obtain ⟨made, e | _⟩ := result
  · exact .inr ⟨made, e, rfl, hadded.sameFiles⟩
  · dsimp only
    cases hwrite : made.write path text.toUTF8 with
    | error e => exact .inr ⟨made, .notWritten path e, rfl, hadded.sameFiles⟩
    | ok written =>
      obtain ⟨names, hsets⟩ := FileTree.write_sets hwrite
      exact .inl ⟨names, written, rfl, hadded.writes hsets⟩

/-! ## Writing all catalogs -/

/-- The catalog of a target, built from the files of a tree. -/
def PlannedTarget.catalogText (target : PlannedTarget) (t : FileTree) (base : Path)
    (date : String) : String :=
  catalog (buildCatalog t base target.jobs).messages date

/-- What is said about the catalog of a target in the end. -/
def PlannedTarget.summary (target : PlannedTarget) (t : FileTree) (base : Path) : TargetSummary :=
  let data := buildCatalog t base target.jobs
  ⟨target.output, data.messages.length, data.fileCount⟩

/-- Catalogs are written one after another, each from the files that are there
    when its turn comes. -/
inductive WritesAll (date : String) (base : Path) :
    FileTree → List PlannedTarget → FileTree → Prop where
  | nil {t} : WritesAll date base t [] t
  | cons {t names u target rest t'}
      (hfirst : t.Writes (base.join ⟨target.output⟩) names (target.catalogText t base date) u)
      (hrest : WritesAll date base u rest t') :
      WritesAll date base t (target :: rest) t'

/-- Catalogs are written up to a target whose own one cannot be written. -/
def FailsAt (date : String) (base : Path) (t : FileTree) (made : List PlannedTarget)
    (failed : PlannedTarget) (t' : FileTree) (e : RunError) : Prop :=
  ∃ u, WritesAll date base t made u ∧ u.SameFiles t' ∧
    writeOutput u (base.join ⟨failed.output⟩) (failed.catalogText u base date) = (t', .error e)

-- `writeOutput` is sealed, so that `rfl` does not look into it
seal writeOutput in
theorem makeCatalogs_cons_false (date : String) (base : Path) (p : Progress)
    (target : PlannedTarget) (rest : List PlannedTarget) :
    makeCatalogs date false base p (target :: rest) =
      match writeOutput p.tree (base.join ⟨target.output⟩) (target.catalogText p.tree base date) with
      | (tree, .error e) => (p.withTree tree, .error e)
      | (tree, .ok ()) => makeCatalogs date false base
          ((p.withTree tree).note target (buildCatalog p.tree base target.jobs)) rest :=
  rfl

theorem makeCatalogs_cons_true (date : String) (base : Path) (p : Progress)
    (target : PlannedTarget) (rest : List PlannedTarget) :
    makeCatalogs date true base p (target :: rest) =
      makeCatalogs date true base ((p.print (target.catalogText p.tree base date)).note target
        (buildCatalog p.tree base target.jobs)) rest :=
  rfl

/-- **The catalogs of a plan** are all written, or up to a target where that
    fails. -/
theorem makeCatalogs_cases (date : String) (base : Path) (p : Progress)
    (targets : List PlannedTarget) :
    (∃ q, makeCatalogs date false base p targets = (q, .ok ()) ∧
      WritesAll date base p.tree targets q.tree) ∨
    ∃ q e made failed rest, makeCatalogs date false base p targets = (q, .error e) ∧
      targets = made ++ failed :: rest ∧ FailsAt date base p.tree made failed q.tree e := by
  induction targets generalizing p with
  | nil => exact .inl ⟨p, rfl, .nil⟩
  | cons target rest ih =>
    have hstep := makeCatalogs_cons_false date base p target rest
    rcases writeOutput_cases p.tree (base.join ⟨target.output⟩) (target.catalogText p.tree base date)
      with ⟨names, t', hwrite, hwrites⟩ | ⟨t', e, hwrite, hsame⟩
    · rw [hwrite] at hstep
      rcases ih ((p.withTree t').note target (buildCatalog p.tree base target.jobs))
        with ⟨q, hq, hrest⟩ | ⟨q, e, made, failed, others, hq, rfl, u, hu, hsame, hstop⟩
      · exact .inl ⟨q, hstep.trans hq, .cons hwrites hrest⟩
      · exact .inr ⟨q, e, target :: made, failed, others, hstep.trans hq, rfl, u,
          .cons hwrites hu, hsame, hstop⟩
    · rw [hwrite] at hstep
      exact .inr ⟨_, e, [], target, rest, hstep, rfl, p.tree, .nil, hsame, hwrite⟩

theorem makeCatalogs_stdout (date : String) (base : Path) (p : Progress)
    (targets : List PlannedTarget) :
    makeCatalogs date true base p targets =
      ({ p with
          printed := p.printed ++ String.join (targets.map (·.catalogText p.tree base date))
          summaries := p.summaries ++ targets.map (·.summary p.tree base)
          issues := p.issues ++ targets.flatMap (buildCatalog p.tree base ·.jobs |>.issues) },
        .ok ()) := by
  induction targets generalizing p with
  | nil =>
    show (p, Except.ok ()) = _
    simp [String.join]
  | cons target rest ih =>
    rw [makeCatalogs_cons_true, ih]
    simp [Progress.print, Progress.note, PlannedTarget.summary, String.join_cons,
      String.append_assoc]

/-! ## Runs -/

/-- What is known about a run after its planning. -/
inductive Extracts [TextMeasure] (t : FileTree) (date : String) (options : ExtractOptions) :
    Outcome → Prop where
  | unplanned {e} (hplan : (planExtract t options).result = .error e) :
      Extracts t date options (.aborted t [] (planExtract t options).log e)
  | printed {base targets} (hplan : (planExtract t options).result = .ok ⟨base, targets⟩)
      (hstdout : options.toStdout = true) :
      Extracts t date options (finishExtract true (planExtract t options).log
        { tree := t
          printed := String.join (targets.map (·.catalogText t base date))
          summaries := targets.map (·.summary t base)
          issues := targets.flatMap (buildCatalog t base ·.jobs |>.issues) })
  | written {base targets} {p : Progress} (hplan : (planExtract t options).result = .ok ⟨base, targets⟩)
      (hstdout : options.toStdout = false)
      (hmade : makeCatalogs date false base (.start t) targets = (p, .ok ()))
      (hwrites : WritesAll date base t targets p.tree) :
      Extracts t date options (finishExtract false (planExtract t options).log p)
  | stopped {base made failed rest e} {p : Progress}
      (hplan : (planExtract t options).result = .ok ⟨base, made ++ failed :: rest⟩)
      (hstdout : options.toStdout = false)
      (hfails : FailsAt date base t made failed p.tree e) :
      Extracts t date options (.aborted p.tree [plain p.printed] (planExtract t options).log e)

theorem runExtract_of_ok [TextMeasure] {t : FileTree} {options : ExtractOptions} {plan : Plan}
    (h : (planExtract t options).result = .ok plan) (date : String) :
    runExtract t date options =
      match makeCatalogs date options.toStdout plan.base (.start t) plan.targets with
      | (p, .error e) => .aborted p.tree [plain p.printed] (planExtract t options).log e
      | (p, .ok ()) => finishExtract options.toStdout (planExtract t options).log p := by
  unfold runExtract
  generalize planExtract t options = logged at h ⊢
  obtain ⟨log, result⟩ := logged
  subst h
  rfl

theorem runExtract_extracts [TextMeasure] (t : FileTree) (date : String) (options : ExtractOptions) :
    Extracts t date options (runExtract t date options) := by
  cases hplan : (planExtract t options).result with
  | error e =>
    rw [runExtract_of_error hplan]
    exact .unplanned hplan
  | ok plan =>
    obtain ⟨base, targets⟩ := plan
    rw [runExtract_of_ok hplan]
    cases hstdout : options.toStdout with
    | true =>
      rw [makeCatalogs_stdout]
      have hprinted := @Extracts.printed _ t date options base targets hplan hstdout
      simpa [Progress.start] using hprinted
    | false =>
      rcases makeCatalogs_cases date base (.start t) targets
        with ⟨p, hmade, hwrites⟩ | ⟨p, e, made, failed, rest, hmade, rfl, hfails⟩
      · rw [hmade]
        exact .written hplan hstdout hmade hwrites
      · rw [hmade]
        exact .stopped hplan hstdout hfails

theorem finishExtract_tree [TextMeasure] (toStdout : Bool) (log : StyledText) (p : Progress) :
    (finishExtract toStdout log p).tree = p.tree := by
  unfold finishExtract
  dsimp only
  split_ifs <;> rfl

theorem finishExtract_code_ne [TextMeasure] (toStdout : Bool) (log : StyledText) (p : Progress) :
    (finishExtract toStdout log p).status.code ≠ 2 := by
  unfold finishExtract finalStatus
  dsimp only
  split_ifs <;> simp [ExitStatus.code]

theorem FailsAt.sameFiles {date : String} {base : Path} {t t' : FileTree} {failed : PlannedTarget}
    {e : RunError} (h : FailsAt date base t [] failed t' e) : t.SameFiles t' := by
  obtain ⟨u, hu, hsame, -⟩ := h
  cases hu
  exact hsame

theorem planExtract_single {t : FileTree} {options : ExtractOptions} {plan : Plan}
    (hsources : options.sources ≠ []) (hplan : (planExtract t options).result = .ok plan) :
    ∃ jobs, plan = ⟨options.root, [⟨options.output.getD defaultOutput, jobs⟩]⟩ := by
  obtain ⟨base, targets⟩ := plan
  obtain ⟨loaded, chosen, -, hchoose, hplanned⟩ := planExtract_eq_ok_iff.1 hplan
  rw [chooseTargets, if_pos (by simpa using hsources)] at hchoose
  cases hchoose
  obtain ⟨⟨output, jobs⟩, rest, ⟨houtput, -⟩, hrest, rfl⟩ := List.forall₂_cons_left_iff.1 hplanned
  obtain rfl := List.forall₂_nil_left_iff.1 hrest
  obtain rfl : output = options.output.getD defaultOutput := houtput
  exact ⟨jobs, rfl⟩

/-- **What a run leaves behind.**  With exit code 2 it has failed in planning, and
    the tree is what it was, or at one target, and exactly the catalogs of the
    targets before that one are written.  No file is changed if that is the first
    target, as it is whenever sources are given.  With any other exit code all
    catalogs are written or printed. -/
theorem aborted_run_writes [TextMeasure] {arguments : List String} {options : ExtractOptions}
    (haccepted : readArguments arguments = .ok (some (.extract options))) {t : FileTree}
    {date : String} {outcome : Outcome} (hrun : run t date arguments = .ok outcome) :
    (outcome.status.code = 2 →
      PlanningFails t options ∧ outcome.tree = t ∨
      ∃ base made failed rest e, options.toStdout = false ∧
        (planExtract t options).result = .ok ⟨base, made ++ failed :: rest⟩ ∧
        FailsAt date base t made failed outcome.tree e ∧
        (made = [] → t.SameFiles outcome.tree)) ∧
    (outcome.status.code ≠ 2 →
      ∃ plan, (planExtract t options).result = .ok plan ∧
        if options.toStdout then outcome.tree = t
        else WritesAll date plan.base t plan.targets outcome.tree) ∧
    (options.sources ≠ [] → outcome.status.code = 2 → t.SameFiles outcome.tree) := by
  rw [run_extract haccepted] at hrun
  have hextracts := runExtract_extracts t date options
  rw [Except.ok.inj hrun] at hextracts
  cases hextracts with
  | unplanned hplan =>
    refine ⟨fun _ => .inl ⟨.of_error hplan, rfl⟩, fun h => absurd rfl h, fun _ _ => ?_⟩
    exact fun _ _ => .rfl
  | printed hplan hstdout =>
    refine ⟨fun h => (finishExtract_code_ne _ _ _ h).elim, fun _ => ⟨_, hplan, ?_⟩,
      fun _ h => (finishExtract_code_ne _ _ _ h).elim⟩
    rw [if_pos hstdout, finishExtract_tree]
  | written hplan hstdout hmade hwrites =>
    refine ⟨fun h => (finishExtract_code_ne _ _ _ h).elim, fun _ => ⟨_, hplan, ?_⟩,
      fun _ h => (finishExtract_code_ne _ _ _ h).elim⟩
    rw [if_neg (by simp [hstdout]), finishExtract_tree]
    exact hwrites
  | @stopped base made failed rest e p hplan hstdout hfails =>
    refine ⟨fun _ => .inr ⟨base, made, failed, rest, e, hstdout, hplan, hfails, ?_⟩,
      fun h => absurd rfl h, fun hsources _ => ?_⟩
    · rintro rfl
      exact hfails.sameFiles
    · obtain ⟨jobs, hsingle⟩ := planExtract_single hsources hplan
      obtain rfl : made = [] := by
        have hlength := congrArg (·.targets.length) hsingle
        exact List.eq_nil_of_length_eq_zero (by simp at hlength; omega)
      exact hfails.sameFiles

/-! ## A run that stops -/

/-- Something is already there above a path: a directory, or else what cannot be
    one. -/
theorem makeParent_of_entry {t : FileTree} {path parent : Path} {names : List String}
    (hparent : path.parent? = some parent) (hlocate : t.locate .entry parent = .ok names)
    (hentry : (t.root.at? names).isSome) :
    makeParent t path =
      (t, if t.isFolder parent then .ok () else .error (.folderNotMade parent .alreadyExists)) := by
  have htext := FileTree.text_ne_empty_of_locate hlocate
  obtain ⟨node, hnode⟩ := Option.isSome_iff_exists.1 hentry
  have hcreate : t.create parent .emptyFolder = .error .alreadyExists := by
    simp only [FileTree.create, hlocate, bind, Except.bind, hnode]
    rfl
  rw [makeParent, hparent]
  simp only [FileTree.createFolders, FileTree.makeFolders, hcreate]
  cases t.isFolder parent <;> simp [htext, Except.mapError]

/-- The second target has a file where its directory should be. -/
def blockedTarget : String := "\x7b\"targets\":\x7b\"one.pot\":[],\"a.js/two.pot\":[]\x7d\x7d"

theorem blockedTarget_planExtract :
    (planExtract (project blockedTarget "") ⟨[], none, false, ⟨"."⟩, false⟩).result =
      .ok ⟨⟨"/"⟩, [⟨"one.pot", []⟩, ⟨"a.js/two.pot", []⟩]⟩ := by
  let config : Config := { Config.default with targets := [⟨"one.pot", []⟩, ⟨"a.js/two.pot", []⟩] }
  have hparse : Config.parse blockedTarget = .ok config := rfl
  have hload := project_loadConfig hparse (by decide) ""
  refine planExtract_eq_ok_iff.2 ⟨_, _, hload, rfl, ?_⟩
  exact .cons ⟨rfl, _, rfl, rfl⟩ (.cons ⟨rfl, _, rfl, rfl⟩ .nil)

theorem project_rootLocate (config script : String) (purpose : Purpose) :
    (project config script).locate purpose ⟨"/"⟩ = .ok [] ∧
      (project config script).locate purpose ⟨"/one.pot"⟩ = .ok ["one.pot"] := by
  refine ⟨?_, ?_⟩ <;>
    simp [FileTree.locate, Path.moves, splitSlash, Move.ofPart?, Path.endsInSlash, Path.isAbsolute,
      project, configFileName, FileTree.follow, Node.at?, Entries.find?, List.lookup_cons, Node.ofText]

theorem project_writeOutput (config script text : String) :
    writeOutput (project config script) ⟨"/one.pot"⟩ text =
      ((project config script).put ["one.pot"] (.ofText text), .ok ()) := by
  have hlocate := project_rootLocate config script
  have hfolder : (project config script).isFolder ⟨"/"⟩ = true := by
    rw [FileTree.isFolder, FileTree.resolve, (hlocate .inspect).1]
    rfl
  have hparent : makeParent (project config script) ⟨"/one.pot"⟩ = (project config script, .ok ()) := by
    rw [makeParent_of_entry (by decide) (hlocate .entry).1 rfl, if_pos hfolder]
  have hwrite : (project config script).write ⟨"/one.pot"⟩ text.toUTF8 =
      .ok ((project config script).put ["one.pot"] (.ofText text)) := by
    rw [FileTree.write, (hlocate .write).2]
    rfl
  rw [writeOutput, hparent]
  simp only [hwrite]

/-- The project behind the first target. -/
theorem project_put (config script : String) (node : Node) :
    ∃ entries, (project config script).put ["one.pot"] node = ⟨.folder true entries, []⟩ ∧
      Entries.find? entries "a.js" = some (.ofText script) ∧
      Entries.find? entries "one.pot" = some node :=
  ⟨_, rfl, Entries.find?_set_of_ne (by decide) _ _, Entries.find?_set_self ..⟩

theorem project_put_locate (config script : String) (node : Node) (purpose : Purpose) :
    ((project config script).put ["one.pot"] node).locate purpose ⟨"/a.js"⟩ = .ok ["a.js"] ∧
      ((project config script).put ["one.pot"] node).root.at? ["a.js"] = some (.ofText script) := by
  obtain ⟨entries, hput, hscript, -⟩ := project_put config script node
  rw [hput]
  refine ⟨?_, ?_⟩ <;>
    simp [FileTree.locate, Path.moves, splitSlash, Move.ofPart?, Path.endsInSlash, Path.isAbsolute,
      FileTree.follow, Node.at?, Node.child?, hscript, Node.ofText]

theorem project_writeOutput_blocked (config script text other : String) :
    writeOutput ((project config script).put ["one.pot"] (.ofText text)) ⟨"/a.js/two.pot"⟩ other =
      ((project config script).put ["one.pot"] (.ofText text),
        .error (.folderNotMade ⟨"/a.js"⟩ .alreadyExists)) := by
  have hlocate := project_put_locate config script (.ofText text)
  have hfile : ((project config script).put ["one.pot"] (.ofText text)).isFolder ⟨"/a.js"⟩ = false := by
    rw [FileTree.isFolder, FileTree.resolve_eq_ok_iff.2 ⟨_, hlocate .inspect⟩]
    rfl
  rw [writeOutput, makeParent_of_entry (by decide) (hlocate .entry).1 (by rw [(hlocate .entry).2]; rfl),
    if_neg (by simp [hfile])]

theorem blockedTarget_run (date : String) :
    ∃ text stdout stderr, run (project blockedTarget "") date ["extract"] =
      .ok ⟨(project blockedTarget "").put ["one.pot"] (.ofText text), .aborted, stdout, stderr⟩ := by
  have haccepted : readArguments ["extract"] =
      .ok (some (.extract ⟨[], none, false, ⟨"."⟩, false⟩)) := by decide
  have hone : Path.join ⟨"/"⟩ ⟨"one.pot"⟩ = ⟨"/one.pot"⟩ := by decide
  have htwo : Path.join ⟨"/"⟩ ⟨"a.js/two.pot"⟩ = ⟨"/a.js/two.pot"⟩ := by decide
  rw [run_extract haccepted, runExtract_of_ok blockedTarget_planExtract]
  simp only [makeCatalogs_cons_false, Progress.start, Progress.withTree, Progress.note, hone, htwo,
    project_writeOutput, project_writeOutput_blocked]
  exact ⟨_, _, _, rfl⟩

theorem blockedTarget_aborted_run_writes :
    ∃ outcome base made failed rest e,
      run (project blockedTarget "") "2024-01-01 00:00+0000" ["extract"] = .ok outcome ∧
      outcome.status.code = 2 ∧
      (planExtract (project blockedTarget "") ⟨[], none, false, ⟨"."⟩, false⟩).result =
        .ok ⟨base, made ++ failed :: rest⟩ ∧
      FailsAt "2024-01-01 00:00+0000" base (project blockedTarget "") made failed outcome.tree e := by
  obtain ⟨text, stdout, stderr, hrun⟩ := blockedTarget_run "2024-01-01 00:00+0000"
  have haccepted : readArguments ["extract"] =
      .ok (some (.extract ⟨[], none, false, ⟨"."⟩, false⟩)) := by decide
  obtain ⟨haborted, -⟩ := aborted_run_writes haccepted hrun
  rcases haborted rfl with ⟨hfails, -⟩ | ⟨base, made, failed, rest, e, -, hplan, hfails, -⟩
  · exact absurd blockedTarget_planExtract (hfails.not_ok _)
  · exact ⟨_, base, made, failed, rest, e, hrun, rfl, hplan, hfails⟩

/-- The run ends with exit code 2, and the catalog of the first target is new. -/
theorem blockedTarget_run_writes :
    ∃ outcome text,
      run (project blockedTarget "") "2024-01-01 00:00+0000" ["extract"] = .ok outcome ∧
      outcome.status.code = 2 ∧ (project blockedTarget "").root.at? ["one.pot"] = none ∧
      outcome.tree.root.at? ["one.pot"] = some (.ofText text) ∧
      ¬ (project blockedTarget "").SameFiles outcome.tree := by
  obtain ⟨text, stdout, stderr, hrun⟩ := blockedTarget_run "2024-01-01 00:00+0000"
  obtain ⟨entries, hput, -, hone⟩ := project_put blockedTarget "" (.ofText text)
  have hat : ((project blockedTarget "").put ["one.pot"] (.ofText text)).root.at? ["one.pot"] =
      some (.ofText text) := by
    simp [hput, Node.at?, Node.child?, hone]
  refine ⟨_, text, hrun, rfl, rfl, hat, fun hsame => ?_⟩
  have hfree := (hsame ["one.pot"] text.toUTF8).1 hat
  cases hfree

end PotCatalog
