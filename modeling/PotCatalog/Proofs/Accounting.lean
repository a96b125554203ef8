/-
  Every call is accounted for.

  The calls of the files of a catalog are known before any of them is joined:
  the valid ones are the messages to come (`validCalls`), the rejected ones and
  the files that cannot be read or parsed are the issues to come
  (`Job.expectedIssues`).

  `buildCatalog_accounts`: the catalog holds the valid calls, grouped by their
  message in the order in which they were met, and its issues are the expected
  ones, followed by one conflict for each call whose plural form is not that of
  the first call of its message.
-/
import PotCatalog.Build
import PotCatalog.Proofs.Dedupe
import PotCatalog.Proofs.Judgement

namespace PotCatalog

/-! ## What the files hold -/

/-- What becomes of a file before its calls are judged. -/
inductive FileReading where
  | unread (error : SystemError)
  | unparsed (source : String) (error : ParseError)
  | parsed (source : String) (calls : List CallSite)

/-- Reads and parses the file of a job. -/
def Job.reading (t : FileTree) (base : Path) (job : Job) : FileReading :=
  match t.read (base.join ⟨job.file⟩) with
  | .error e => .unread e
  | .ok source =>
    match job.kind.sites source with
    | .error e => .unparsed source e
    | .ok calls => .parsed source calls

theorem Job.reading_of_sites (job : Job) {t : FileTree} {base : Path} {source : String}
    {calls : List CallSite} (hread : t.read (base.join ⟨job.file⟩) = .ok source)
    (hsites : (job.kind.sites source).toOption = some calls) :
    job.reading t base = .parsed source calls := by
  unfold Job.reading
  rw [hread]
  dsimp only
  cases hresult : job.kind.sites source with
  | error e =>
    rw [hresult] at hsites
    cases hsites
  | ok found =>
    rw [hresult] at hsites
    cases hsites
    rfl

/-- A valid marker call: where it is and what it marks. -/
structure ValidCall where
  location : Location
  msgid : String
  plural : Option String
  deriving DecidableEq, Repr

/-- The valid calls of a file, in the order in which its calls are listed. -/
def FileReading.validCalls (job : Job) : FileReading → List ValidCall
  | parsed _ calls => calls.filterMap fun call =>
      (job.kind.markers.texts? call).map fun (msgid, plural) =>
        ⟨⟨job.file, call.position.line⟩, msgid, plural⟩
  | _ => []

/-- The issues of a file: one if it cannot be read or parsed, else one for each
    rejected call. -/
def FileReading.issues (job : Job) : FileReading → List Issue
  | unread e => [.parseError job.file none ("Failed to read file: " ++ e.message)]
  | unparsed source e =>
    [.parseError job.file
      (e.line.map fun line => Context.of job.file source ⟨line, e.column.getD 1⟩) e.message]
  | parsed source calls => (calls.filter job.kind.markers.rejects).map fun call =>
      .invalidCall (Context.of job.file source call.position) (job.kind.markers.fault call)

/-- The issues to expect of a job. -/
def Job.expectedIssues (t : FileTree) (base : Path) (job : Job) : List Issue :=
  (job.reading t base).issues job

/-- The valid calls of all files. -/
def validCalls (t : FileTree) (base : Path) (jobs : List Job) : List ValidCall :=
  jobs.flatMap fun job => (job.reading t base).validCalls job

/-- The conflict of a call with the first call of its message. -/
def ValidCall.conflict? (calls : List ValidCall) (call : ValidCall) : Option PluralConflict :=
  match calls.find? (·.msgid = call.msgid) with
  | some first =>
    if first.plural = call.plural then none
    else some ⟨call.location, call.msgid, first.plural, call.plural⟩
  | none => none

/-! ## From calls to messages -/

/-- The message of a call, which has exactly one place. -/
def ValidCall.message (call : ValidCall) : Message := ⟨call.msgid, call.plural, [call.location]⟩

theorem runJob_eq (t : FileTree) (base : Path) (job : Job) :
    runJob t base job =
      match job.reading t base with
      | .unread e => .readFailure job.file e.message
      | .unparsed source e => .parseFailure job.file source e
      | .parsed source calls => job.kind.markers.collect job.file source calls := by
  unfold runJob Job.reading
  cases t.read (base.join ⟨job.file⟩) with
  | error e => rfl
  | ok source =>
    simp only [extract]
    cases job.kind.sites source <;> rfl

theorem runJob_messages (t : FileTree) (base : Path) (job : Job) :
    (runJob t base job).messages = ((job.reading t base).validCalls job).map ValidCall.message := by
  rw [runJob_eq]
  cases job.reading t base with
  | unread e => rfl
  | unparsed source e => rfl
  | parsed source calls =>
    simp only [MarkerSet.collect, MarkerSet.messages_eq, FileReading.validCalls,
      List.map_filterMap, Option.map_map]
    rfl

theorem runJob_issues (t : FileTree) (base : Path) (job : Job) :
    (runJob t base job).issues = job.expectedIssues t base := by
  rw [runJob_eq, Job.expectedIssues]
  cases job.reading t base with
  | unread e => rfl
  | unparsed source e => rfl
  | parsed source calls => exact MarkerSet.refusals_eq _ _ _ _

theorem flatMap_runJob_messages (t : FileTree) (base : Path) (jobs : List Job) :
    (jobs.map (runJob t base)).flatMap Extraction.messages =
      (validCalls t base jobs).map ValidCall.message := by
  rw [List.flatMap_map, validCalls, List.map_flatMap]
  exact List.flatMap_congr fun job _ => runJob_messages t base job

theorem flatMap_runJob_issues (t : FileTree) (base : Path) (jobs : List Job) :
    (jobs.map (runJob t base)).flatMap Extraction.issues =
      jobs.flatMap (Job.expectedIssues t base) := by
  rw [List.flatMap_map]
  exact List.flatMap_congr fun job _ => runJob_issues t base job

theorem placesOf_messages (calls : List ValidCall) (msgid : String) :
    placesOf (calls.map ValidCall.message) msgid =
      (calls.filter (·.msgid = msgid)).map ValidCall.location := by
  rw [placesOf, List.filter_map, List.flatMap_map, List.map_eq_flatMap]
  rfl

/-- A call has a place, so that none of its conflicts is passed over. -/
theorem conflictIn_message (calls : List ValidCall) (call : ValidCall) :
    conflictIn (calls.map ValidCall.message) call.message = (call.conflict? calls).toList := by
  have hfind : (calls.map ValidCall.message).find? (Message.has call.message.msgid) =
      (calls.find? (·.msgid = call.msgid)).map ValidCall.message := by
    rw [List.find?_map]
    rfl
  rw [conflictIn, ValidCall.conflict?, hfind]
  cases calls.find? (·.msgid = call.msgid) with
  | none => rfl
  | some first =>
    by_cases h : first.plural = call.plural
    · simp [conflictWith, ValidCall.message, h]
    · simp [conflictWith, ValidCall.message, h]

theorem dedupe_conflicts_messages (calls : List ValidCall) :
    (dedupe (calls.map ValidCall.message)).conflicts =
      calls.filterMap (ValidCall.conflict? calls) := by
  rw [(dedupe_joined _).conflicts, List.flatMap_map, List.filterMap_eq_flatMap_toList]
  exact List.flatMap_congr fun call _ => conflictIn_message calls call

/-! ## The catalog -/

/-- **No call is lost, doubled or made up.** -/
theorem buildCatalog_accounts (t : FileTree) (base : Path) (jobs : List Job) :
    (∀ m ∈ (buildCatalog t base jobs).messages,
      m.locations = ((validCalls t base jobs).filter (·.msgid = m.msgid)).map ValidCall.location) ∧
    (∀ msgid, (∃ m ∈ (buildCatalog t base jobs).messages, m.msgid = msgid) ↔
      ∃ call ∈ validCalls t base jobs, call.msgid = msgid) ∧
    ((buildCatalog t base jobs).messages.map Message.msgid).Nodup ∧
    (buildCatalog t base jobs).issues =
      jobs.flatMap (Job.expectedIssues t base) ++
        ((validCalls t base jobs).filterMap
          (ValidCall.conflict? (validCalls t base jobs))).map .pluralConflict ∧
    (buildCatalog t base jobs).fileCount = jobs.length := by
  have hmessages : (buildCatalog t base jobs).messages =
      (dedupe ((validCalls t base jobs).map ValidCall.message)).messages := by
    rw [← flatMap_runJob_messages]
    rfl
  refine ⟨fun m hm => ?_, fun msgid => ?_, ?_, ?_, ?_⟩
  · rw [hmessages] at hm
    rw [dedupe_locations hm, placesOf_messages]
  · rw [hmessages, exists_mem_dedupe_iff]
    simp [ValidCall.message]
  · rw [hmessages]
    exact dedupe_nodup _
  · rw [← dedupe_conflicts_messages, ← flatMap_runJob_messages, ← flatMap_runJob_issues]
    rfl
  · simp [buildCatalog, merge]

end PotCatalog
