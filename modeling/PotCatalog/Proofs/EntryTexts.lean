/-
  The texts of a catalog's entries.

  `msgidsIn` lists the texts of the entries of a catalog, that of its header
  included, as they stand on the lines of the catalog.

  * `msgidsIn_catalog`: they are the empty text of the header and the texts of
    the messages;
  * `msgidsIn_nodup_iff`: in a catalog that is built from files they are all
    different exactly if no valid call marks the empty text.
-/
import Mathlib.Data.List.Nodup
import PotCatalog.Proofs.Accounting
import PotCatalog.Proofs.ReadBack
import PotCatalog.Proofs.Scan.Following

namespace PotCatalog

/-- The texts of the entries of a catalog: those of all lines with a message. -/
def msgidsIn (text : String) : List String :=
  (text.toList.splitOn '\n').filterMap (readField "msgid ")

/-! ## Lines -/

/-- The lines of a catalog, as characters. -/
def catalogLines (messages : List Message) (date : String) : List (List Char) :=
  (headerLines date).map String.toList ++ [] :: (entriesLines messages ++ [[]])

theorem toList_entries_eq (messages : List Message) :
    (entries messages).toList = ['\n'].intercalate (entriesLines messages ++ [[]]) := by
  cases messages with
  | nil => rfl
  | cons m messages => exact toList_entries m messages

theorem headerLines_ne_nil (date : String) : headerLines date ≠ [] := List.cons_ne_nil _ _

theorem toList_catalog (messages : List Message) (date : String) :
    (catalog messages date).toList = ['\n'].intercalate (catalogLines messages date) := by
  have hbody : ['\n'].intercalate ([] :: (entriesLines messages ++ [[]])) =
      '\n' :: (entries messages).toList := by
    rw [List.intercalate_cons_of_ne_nil (by simp), toList_entries_eq]
    rfl
  rw [catalogLines, intercalate_append (by simpa using headerLines_ne_nil date) (by simp), hbody]
  simp [catalog, header, String.toList_intercalate]

/-- Behind its first line the header has no line with a message, and no line break
    but those of the date. -/
theorem headerLines_tail (date : String) : ∀ line ∈ (headerLines date).tail,
    readField "msgid " line.toList = none ∧ ('\n' ∈ line.toList → '\n' ∈ date.toList) := by
  simp [headerLines, readField, stripStart?]

theorem headerLines_eq (date : String) :
    headerLines date = "msgid \"\"" :: (headerLines date).tail := rfl

theorem newline_notMem_headerLines {date : String} (h : '\n' ∉ date.toList) :
    ∀ line ∈ (headerLines date).map String.toList, '\n' ∉ line := by
  intro line hline
  obtain ⟨text, htext, rfl⟩ := List.mem_map.1 hline
  rw [headerLines_eq] at htext
  rcases List.mem_cons.1 htext with rfl | htext
  · decide
  · exact fun hbreak => h ((headerLines_tail date text htext).2 hbreak)

theorem splitOn_catalog {messages : List Message} {date : String} (hdate : '\n' ∉ date.toList)
    (hpaths : ∀ m ∈ messages, ∀ l ∈ m.locations, '\n' ∉ l.path.toList) :
    (catalog messages date).toList.splitOn '\n' = catalogLines messages date := by
  rw [toList_catalog]
  refine List.splitOn_intercalate '\n' ?_ (by simp [catalogLines])
  intro line hline
  rcases List.mem_append.1 hline with hheader | hbody
  · exact newline_notMem_headerLines hdate line hheader
  · rcases List.mem_cons.1 hbody with rfl | hbody
    · simp
    · rcases List.mem_append.1 hbody with hentries | hlast
      · exact newline_notMem_entriesLines hpaths line hentries
      · simp [List.mem_singleton.1 hlast]

/-! ## Lines with a message -/

theorem filterMap_headerLines (date : String) :
    ((headerLines date).map String.toList).filterMap (readField "msgid ") = [""] := by
  have hfirst : readField "msgid " "msgid \"\"".toList = some "" := by decide
  have htail : ((headerLines date).tail.map String.toList).filterMap (readField "msgid ") = [] := by
    refine List.filterMap_eq_nil_iff.2 fun line hline => ?_
    obtain ⟨text, htext, rfl⟩ := List.mem_map.1 hline
    exact (headerLines_tail date text htext).1
  rw [headerLines_eq, List.map_cons, List.filterMap_cons, hfirst, htail]

/-- An entry has one line with a message. -/
theorem Message.filterMap_lines (m : Message) : m.lines.filterMap (readField "msgid ") = [m.msgid] := by
  obtain ⟨msgid, plural, locations⟩ := m
  have hplaces : ((locations.map fun l => "#: " ++ l.text).map String.toList).filterMap
      (readField "msgid ") = [] := by
    refine List.filterMap_eq_nil_iff.2 fun line hline => ?_
    obtain ⟨text, htext, rfl⟩ := List.mem_map.1 hline
    obtain ⟨l, -, rfl⟩ := List.mem_map.1 htext
    simp [readField, stripStart?]
  rw [Message.lines, Message.entryLines, List.map_append, List.filterMap_append, hplaces,
    List.nil_append, List.map_cons, List.filterMap_cons, readField_quote]
  cases plural <;> simp [readField, stripStart?]

theorem filterMap_entriesLines (messages : List Message) :
    (entriesLines messages).filterMap (readField "msgid ") = messages.map Message.msgid := by
  induction messages with
  | nil => rfl
  | cons m messages ih =>
    cases messages with
    | nil => simpa [entriesLines] using m.filterMap_lines
    | cons m' messages =>
      rw [entriesLines_cons, List.filterMap_append, m.filterMap_lines, List.filterMap_cons, ih]
      simp [readField, stripStart?]

/-- **The texts of a catalog's entries** are that of the header, which is empty,
    and those of the messages. -/
theorem msgidsIn_catalog {messages : List Message} {date : String} (hdate : '\n' ∉ date.toList)
    (hpaths : ∀ m ∈ messages, ∀ l ∈ m.locations, '\n' ∉ l.path.toList) :
    msgidsIn (catalog messages date) = "" :: messages.map Message.msgid := by
  rw [msgidsIn, splitOn_catalog hdate hpaths, catalogLines, List.filterMap_append,
    filterMap_headerLines, List.filterMap_cons, List.filterMap_append, filterMap_entriesLines]
  simp [readField, stripStart?]

/-! ## Catalogs of files -/

theorem buildCatalog_messages (t : FileTree) (base : Path) (jobs : List Job) :
    (buildCatalog t base jobs).messages =
      (dedupe ((validCalls t base jobs).map ValidCall.message)).messages := by
  rw [← flatMap_runJob_messages]
  rfl

theorem exists_job_of_mem_validCalls {t : FileTree} {base : Path} {jobs : List Job}
    {call : ValidCall} (h : call ∈ validCalls t base jobs) :
    ∃ job ∈ jobs, call.location.path = job.file := by
  obtain ⟨job, hjob, hcall⟩ := List.mem_flatMap.1 h
  refine ⟨job, hjob, ?_⟩
  cases hreading : job.reading t base with
  | unread | unparsed =>
    rw [hreading] at hcall
    cases hcall
  | parsed source calls =>
    rw [hreading] at hcall
    obtain ⟨site, -, hsite⟩ := List.mem_filterMap.1 hcall
    obtain ⟨texts, -, rfl⟩ := Option.map_eq_some_iff.1 hsite
    rfl

/-- The places of a catalog are in the files that it is built from. -/
theorem exists_job_of_mem_locations {t : FileTree} {base : Path} {jobs : List Job} {m : Message}
    (hm : m ∈ (buildCatalog t base jobs).messages) {l : Location} (hl : l ∈ m.locations) :
    ∃ job ∈ jobs, l.path = job.file := by
  rw [buildCatalog_messages] at hm
  rw [dedupe_locations hm, placesOf_messages] at hl
  obtain ⟨call, hcall, rfl⟩ := List.mem_map.1 hl
  exact exists_job_of_mem_validCalls (List.mem_of_mem_filter hcall)

theorem mem_msgids_iff {t : FileTree} {base : Path} {jobs : List Job} {msgid : String} :
    msgid ∈ (buildCatalog t base jobs).messages.map Message.msgid ↔
      ∃ call ∈ validCalls t base jobs, call.msgid = msgid := by
  rw [List.mem_map, buildCatalog_messages, exists_mem_dedupe_iff]
  simp [ValidCall.message]

/-- **Entries with one text.**  The texts of a catalog's entries are all different
    exactly if no valid call marks the empty text, which is that of the header.
    No other text has two entries, and the empty one has two at most. -/
theorem msgidsIn_nodup_iff (t : FileTree) (base : Path) {jobs : List Job} {date : String}
    (hdate : '\n' ∉ date.toList) (hfiles : ∀ job ∈ jobs, '\n' ∉ job.file.toList) :
    let msgids := msgidsIn (catalog (buildCatalog t base jobs).messages date)
    (msgids.Nodup ↔ ∀ call ∈ validCalls t base jobs, call.msgid ≠ "") ∧
      (∀ msgid, msgid ≠ "" → msgids.count msgid ≤ 1) ∧ msgids.count "" ≤ 2 := by
  intro msgids
  have hpaths : ∀ m ∈ (buildCatalog t base jobs).messages, ∀ l ∈ m.locations,
      '\n' ∉ l.path.toList := by
    intro m hm l hl
    obtain ⟨job, hjob, hpath⟩ := exists_job_of_mem_locations hm hl
    rw [hpath]
    exact hfiles job hjob
  have hmsgids : msgids = "" :: (buildCatalog t base jobs).messages.map Message.msgid :=
    msgidsIn_catalog hdate hpaths
  have hnodup : ((buildCatalog t base jobs).messages.map Message.msgid).Nodup := by
    rw [buildCatalog_messages]
    exact dedupe_nodup _
  have hone := List.nodup_iff_count_le_one.1 hnodup
  rw [hmsgids]
  refine ⟨?_, fun msgid hne => ?_, ?_⟩
  · rw [List.nodup_cons, mem_msgids_iff]
    simp [hnodup]
  · rw [List.count_cons_of_ne hne.symm]
    exact hone msgid
  · rw [List.count_cons_self]
    exact Nat.succ_le_succ (hone "")

/-! ## A script -/

/-- A directory with a script in it. -/
def scriptTree (source : String) : FileTree := ⟨.folder true [("a.js", .ofText source)], []⟩

theorem scriptTree_read (source : String) : (scriptTree source).read ⟨"./a.js"⟩ = .ok source := by
  have hmoves : Path.moves ⟨"./a.js"⟩ = [.stay, .down "a.js"] := by decide
  have hrelative : Path.isAbsolute ⟨"./a.js"⟩ = false := by decide
  have hlocate : (scriptTree source).locate .inspect ⟨"./a.js"⟩ = .ok ["a.js"] := by
    simp [FileTree.locate, hmoves, hrelative, scriptTree, FileTree.follow, Node.at?, Entries.find?,
      Node.ofText]
  exact FileTree.read_of_locate hlocate rfl

theorem scriptTree_validCalls {source : String} {calls : List CallSite}
    (h : (SourceKind.script.sites source).toOption = some calls) :
    validCalls (scriptTree source) ⟨"."⟩ [⟨"a.js", .script⟩] =
      FileReading.validCalls ⟨"a.js", .script⟩ (.parsed source calls) := by
  have hjoin : Path.join ⟨"."⟩ ⟨"a.js"⟩ = ⟨"./a.js"⟩ := by decide
  have hread : (scriptTree source).read (Path.join ⟨"."⟩ ⟨"a.js"⟩) = .ok source := by
    rw [hjoin, scriptTree_read]
  rw [validCalls, List.flatMap_singleton, Job.reading_of_sites ⟨"a.js", .script⟩ hread h]

/-- A text that is marked twice, and one with a plural form. -/
def repeatedText : String := "gettext('a'); f(gettext('a'), ngettext('b', 'a', n));"

theorem repeatedText_msgidsIn_nodup :
    '\n' ∉ "2024-01-01 00:00+0000".toList ∧
      (∀ job ∈ [Job.mk "a.js" .script], '\n' ∉ job.file.toList) ∧
      (msgidsIn (catalog (buildCatalog (scriptTree repeatedText) ⟨"."⟩ [⟨"a.js", .script⟩]).messages
        "2024-01-01 00:00+0000")).Nodup := by
  have hdate : '\n' ∉ "2024-01-01 00:00+0000".toList := by decide
  have hfiles : ∀ job ∈ [Job.mk "a.js" .script], '\n' ∉ job.file.toList := by decide
  have hsites : (SourceKind.script.sites repeatedText).toOption =
      some [⟨some "gettext", ⟨1, 1⟩, [.literal "a"]⟩,
        ⟨some "f", ⟨1, 15⟩, [.expression, .expression]⟩,
        ⟨some "gettext", ⟨1, 17⟩, [.literal "a"]⟩,
        ⟨some "ngettext", ⟨1, 31⟩, [.literal "b", .literal "a", .expression]⟩] := by
    decide +kernel
  refine ⟨hdate, hfiles, (msgidsIn_nodup_iff (scriptTree repeatedText) ⟨"."⟩ hdate hfiles).1.2 ?_⟩
  rw [scriptTree_validCalls hsites]
  decide

/-- A script that marks the empty text. -/
def emptyText : String := "gettext('');"

/-- The header and the message have the same text. -/
theorem emptyText_msgidsIn :
    let msgids := msgidsIn (catalog
      (buildCatalog (scriptTree emptyText) ⟨"."⟩ [⟨"a.js", .script⟩]).messages
      "2024-01-01 00:00+0000")
    msgids = ["", ""] ∧ ¬ msgids.Nodup := by
  intro msgids
  have hsites : (SourceKind.script.sites emptyText).toOption =
      some [⟨some "gettext", ⟨1, 1⟩, [.literal ""]⟩] := by
    decide +kernel
  have hmsgids : msgids = ["", ""] := by
    unfold msgids
    rw [buildCatalog_messages, scriptTree_validCalls hsites]
    exact msgidsIn_catalog (by decide) (by decide)
  rw [hmsgids]
  exact ⟨rfl, by decide⟩

end PotCatalog
