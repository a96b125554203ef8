/-
  Reports that are printed to their end.

  A report breaks off only at a caret that has too many columns before it, so it
  is complete exactly if all its carets fit.  An issue of a source stands at the
  position of one of its offsets (`exists_offset_of_mem_extract`): its line number
  has few digits, and its caret stands below a line of the source, which is only
  as wide as its characters are many (`report_completes_iff`).  The issues of a
  catalog are of this kind (`buildCatalog_showsOnly`).  How long a line is the
  source alone decides, and on a terminal a call behind enough blanks breaks its
  report off (`indented_completes_iff`).
-/
import Mathlib
import PotCatalog.Proofs.Carets
import PotCatalog.Proofs.EntryTexts
import PotCatalog.Proofs.Report.Layout

namespace PotCatalog

/-! ## Where issues stand -/

theorem Position.line_atOffset_le (text : List Char) (offset : Nat) :
    (Position.atOffset text offset).line ≤ text.length + 1 := by
  rw [Position.atOffset_eq, Position.after_eq]
  exact Nat.succ_le_succ (List.count_le_length.trans (takeBytes_starts offset text).length_le)

theorem Script.line_positionFrom_le (p : Position) (offset : Nat) (text : List Char) :
    (Script.positionFrom p offset text).line ≤ p.line + text.length := by
  induction text generalizing p offset with
  | nil => exact Nat.le_refl _
  | cons c cs ih =>
    rw [Script.positionFrom, List.length_cons]
    dsimp only
    split_ifs
    · exact Nat.le_add_right _ _
    · refine (ih _ _).trans ?_
      dsimp only
      omega
    · refine (ih _ _).trans ?_
      dsimp only
      omega

theorem Script.length_withoutMark_le (text : List Char) :
    (Script.withoutMark text).length ≤ text.length := by
  cases text with
  | nil => exact Nat.le_refl _
  | cons c cs =>
    rw [Script.withoutMark]
    split_ifs
    · exact Nat.le_succ _
    · exact Nat.le_refl _

namespace SourceKind

/-- The position of a byte offset in a source of a kind. -/
def positionAt : SourceKind → String → Nat → Position
  | .template, source, offset => PotCatalog.positionAt source offset
  | .script, source, offset => Script.positionIn (Script.withoutMark source.toList) offset

theorem line_positionAt_le (kind : SourceKind) (source : String) (offset : Nat) :
    (kind.positionAt source offset).line ≤ source.length + 1 := by
  rw [← String.length_toList]
  cases kind with
  | template => exact Position.line_atOffset_le source.toList offset
  | script =>
    refine (Script.line_positionFrom_le Position.first offset _).trans ?_
    rw [Nat.add_comm]
    exact Nat.succ_le_succ (Script.length_withoutMark_le source.toList)

end SourceKind

theorem Script.sites_of_failure {source : String} {f : Script.Failure}
    (h : Script.parse (Script.withoutMark source.toList) = .error f) :
    Script.sites source = .error (f.error (Script.withoutMark source.toList)) := by
  unfold Script.sites Script.read
  dsimp only
  rw [h]

namespace SourceKind

/-- Calls are found at the positions of byte offsets, and so are faults. -/
theorem sites_cases (kind : SourceKind) (source : String) :
    (∃ calls, kind.sites source = .ok calls ∧
      ∀ call ∈ calls, ∃ offset, call.position = kind.positionAt source offset) ∨
    ∃ offset message,
      kind.sites source = .error (.located (kind.positionAt source offset) message) := by
  cases kind with
  | template =>
    cases hparse : Template.parse source with
    | ok tree =>
      refine .inl ⟨_, Template.sites_of_parse hparse, fun call hcall => ?_⟩
      obtain ⟨c, -, rfl⟩ := List.mem_map.1 hcall
      exact ⟨c.start, rfl⟩
    | error f => exact .inr ⟨f.offset, f.fault.message, Template.sites_of_failure hparse⟩
  | script =>
    cases hparse : Script.parse (Script.withoutMark source.toList) with
    | ok program =>
      have hread : Script.read source = .ok program := by
        unfold Script.read
        dsimp only
        rw [hparse]
      refine .inl ⟨_, Script.sites_of_read hread, fun call hcall => ?_⟩
      obtain ⟨c, -, rfl⟩ := List.mem_map.1 hcall
      exact ⟨c.start, rfl⟩
    | error f => exact .inr ⟨f.offset, f.fault.message, Script.sites_of_failure hparse⟩

end SourceKind

/-- An issue stands at the position of a byte offset in its source. -/
theorem exists_offset_of_mem_extract {kind : SourceKind} {file source : String} {issue : Issue}
    (h : issue ∈ (extract kind file source).issues) :
    ∃ offset, issue.place = .source (Context.of file source (kind.positionAt source offset)) := by
  unfold extract at h
  rcases kind.sites_cases source with ⟨calls, hsites, hcalls⟩ | ⟨offset, message, hsites⟩
  · rw [hsites] at h
    obtain ⟨call, hcall, hissue⟩ := List.mem_filterMap.1 h
    obtain ⟨offset, hposition⟩ := hcalls call hcall
    refine ⟨offset, ?_⟩
    rw [← hposition]
    split at hissue
    · cases hissue
      rfl
    · cases hissue
  · rw [hsites] at h
    obtain rfl := List.mem_singleton.1 h
    exact ⟨offset, rfl⟩

/-! ## Widths of lines -/

theorem glyphWidth_le (c : Char) : glyphWidth c ≤ 2 := by
  unfold glyphWidth
  split_ifs <;> decide

theorem displayWidth_le (c : Char) : displayWidth c ≤ 3 := by
  unfold displayWidth
  split_ifs
  · decide
  · decide
  · exact (glyphWidth_le c).trans (by decide)

theorem Opening.ligature?_le {c : Char} {opening : Opening} {front : Nat × Opening}
    (h : opening.ligature? c = some front) : front.1 ≤ 2 := by
  cases opening <;> simp only [ligature?] at h <;> grind

/-- A terminal gives no character more than three columns. -/
theorem terminalWidth_le (text : List Char) : terminalWidth text ≤ 3 * text.length := by
  unfold terminalWidth
  induction text with
  | nil => exact Nat.le_refl _
  | cons c cs ih =>
    rw [terminalScan, List.length_cons]
    dsimp only
    cases h : (terminalScan cs).2.ligature? c with
    | none =>
      have hc := displayWidth_le c
      rw [Option.getD_none]
      omega
    | some front =>
      have hfront := Opening.ligature?_le h
      rw [Option.getD_some]
      omega

/-- A context shows a line of its source, or an empty one. -/
theorem Context.text_of_cases (file source : String) (p : Position) :
    (Context.of file source p).text = "" ∨ (Context.of file source p).text ∈ textLines source := by
  unfold Context.of
  cases hline : lineAt source p.line with
  | none => exact .inl rfl
  | some line =>
    refine .inr ?_
    cases hp : p.line with
    | zero =>
      rw [hp] at hline
      cases hline
    | succ n =>
      rw [hp] at hline
      exact List.mem_of_getElem? hline

/-! ## Complete reports -/

namespace Report

variable {issues : List Issue} {issue : Issue}

theorem fits_iff [TextMeasure] : fits issue = true ↔
    ∀ context, issue.place = .source context → caretPadding context ≤ caretLimit := by
  unfold fits
  cases issue.place with
  | source context => simp
  | line location => simp
  | file path => simp

theorem isComplete_iff [TextMeasure] (issues : List Issue) :
    (report issues).isComplete = true ↔ ∀ issue ∈ issues, fits issue = true := by
  rw [← List.dropWhile_eq_nil_iff]
  unfold report
  dsimp only
  cases issues.dropWhile fits with
  | nil => simp
  | cons wide rest => simp

theorem marginWidth_le {width : Nat} (hwidth : 0 < width)
    (h : ∀ line ∈ excerptLines issues, line < 10 ^ width) : marginWidth issues ≤ width := by
  rw [marginWidth_eq]
  cases hmax : (excerptLines issues).max? with
  | none => exact hwidth
  | some line =>
    rw [Option.map_some, Option.getD_some, length_toString]
    exact (Nat.length_toDigits_le_iff (by decide) hwidth).2 (h line (List.max?_mem hmax))

end Report

/-- A report that shows lines of given sources only: each issue with a line is one
    of a source, read as its job says. -/
def ShowsOnly (sources : List (Job × String)) (issues : List Issue) : Prop :=
  ∀ issue ∈ issues, ∀ context, issue.place = .source context →
    ∃ read ∈ sources, issue ∈ (extract read.1.kind read.1.file read.2).issues

section
variable {sources : List (Job × String)} {issues : List Issue}

theorem ShowsOnly.exists_context (h : ShowsOnly sources issues) {issue : Issue}
    (hissue : issue ∈ issues) {context : Context} (hplace : issue.place = .source context) :
    ∃ read ∈ sources, ∃ offset,
      context = Context.of read.1.file read.2 (read.1.kind.positionAt read.2 offset) := by
  obtain ⟨read, hread, hextract⟩ := h issue hissue context hplace
  obtain ⟨offset, hoffset⟩ := exists_offset_of_mem_extract hextract
  rw [hplace] at hoffset
  exact ⟨read, hread, offset, Place.source.inj hoffset⟩

theorem ShowsOnly.line_le (h : ShowsOnly sources issues) {limit : Nat}
    (hsize : ∀ read ∈ sources, read.2.length < limit) :
    ∀ line ∈ excerptLines issues, line ≤ limit := by
  intro line hline
  obtain ⟨issue, hissue, hexcerpt⟩ := List.mem_filterMap.1 hline
  unfold Issue.excerptLine? at hexcerpt
  split at hexcerpt
  case h_1 context hplace =>
    obtain ⟨read, hread, offset, rfl⟩ := h.exists_context hissue hplace
    cases hexcerpt
    exact (read.1.kind.line_positionAt_le read.2 offset).trans (hsize read hread)
  case h_2 => cases hexcerpt

theorem ShowsOnly.caretPadding_le [TextMeasure] (h : ShowsOnly sources issues) {k limit : Nat}
    (hmeasure : ∀ text, textWidth text ≤ k * text.length)
    (hlines : ∀ read ∈ sources, ∀ line ∈ textLines read.2, k * line.length ≤ limit)
    {issue : Issue} (hissue : issue ∈ issues) {context : Context}
    (hplace : issue.place = .source context) : Report.caretPadding context ≤ limit := by
  obtain ⟨read, hread, offset, rfl⟩ := h.exists_context hissue hplace
  refine (hmeasure _).trans ((Nat.mul_le_mul_left k (List.length_take_le' _ _)).trans ?_)
  rw [String.length_toList]
  rcases Context.text_of_cases read.1.file read.2 (read.1.kind.positionAt read.2 offset) with
    hempty | hline
  · rw [hempty]
    exact Nat.zero_le _
  · exact hlines read hread _ hline

/-- **A report is complete exactly if all its carets fit**, whatever the measure of
    texts.  The margin has at most twenty columns if the sources have less than
    2^64 characters; what can be too wide is the text before a caret.  It is not if
    no character takes more than `k` columns and no line of the sources has more
    than `65535 / k` characters. -/
theorem report_completes_iff [TextMeasure] (hshown : ShowsOnly sources issues) :
    ((∀ read ∈ sources, read.2.length < 2 ^ 64) → Report.marginWidth issues ≤ 20) ∧
    ((report issues).isComplete = true ↔
      ∀ issue ∈ issues, ∀ context, issue.place = .source context →
        textWidth (context.text.toList.take (context.position.column - 1)) ≤ 65535) ∧
    ∀ k, (∀ text, textWidth text ≤ k * text.length) →
      (∀ read ∈ sources, ∀ line ∈ textLines read.2, k * line.length ≤ 65535) →
        (report issues).isComplete = true := by
  have hmargin : (∀ read ∈ sources, read.2.length < 2 ^ 64) → Report.marginWidth issues ≤ 20 := by
    intro hsize
    refine Report.marginWidth_le (by decide) fun line hline => ?_
    exact Nat.lt_of_le_of_lt (hshown.line_le hsize line hline) (by decide)
  have hcomplete : (report issues).isComplete = true ↔
      ∀ issue ∈ issues, ∀ context, issue.place = .source context →
        Report.caretPadding context ≤ Report.caretLimit := by
    simp only [Report.isComplete_iff, Report.fits_iff]
  refine ⟨hmargin, hcomplete, fun k hmeasure hlines => hcomplete.2 ?_⟩
  exact fun issue hissue context => hshown.caretPadding_le hmeasure hlines hissue

end

/-- The jobs whose files can be read, with what the files hold. -/
def readSources (t : FileTree) (base : Path) (jobs : List Job) : List (Job × String) :=
  jobs.filterMap fun job =>
    match t.read (base.join ⟨job.file⟩) with
    | .ok source => some (job, source)
    | .error _ => none

/-- The issues of a catalog show lines of the files read for it only. -/
theorem buildCatalog_showsOnly (t : FileTree) (base : Path) (jobs : List Job) :
    ShowsOnly (readSources t base jobs) (buildCatalog t base jobs).issues := by
  intro issue hissue context hplace
  unfold buildCatalog merge at hissue
  rcases List.mem_append.1 hissue with hfile | hconflict
  · obtain ⟨extraction, hextraction, hmem⟩ := List.mem_flatMap.1 hfile
    obtain ⟨job, hjob, rfl⟩ := List.mem_map.1 hextraction
    unfold runJob at hmem
    cases hread : t.read (base.join ⟨job.file⟩) with
    | ok source =>
      rw [hread] at hmem
      refine ⟨(job, source), List.mem_filterMap.2 ⟨job, hjob, ?_⟩, hmem⟩
      rw [hread]
    | error e =>
      -- an unread file is an issue without a line
      rw [hread] at hmem
      obtain rfl := List.mem_singleton.1 hmem
      cases hplace
  · obtain ⟨conflict, -, rfl⟩ := List.mem_map.1 hconflict
    cases hplace

/-- A script with a refused call before it breaks off. -/
def brokenScript : String := "gettext(x);\ngettext(y"

theorem brokenScript_report_completes :
    (extract .script "a.js" brokenScript).issues.length = 1 ∧
      Report.marginWidth (buildCatalog (scriptTree brokenScript) ⟨"."⟩ [⟨"a.js", .script⟩]).issues ≤ 20 ∧
      (report (buildCatalog (scriptTree brokenScript) ⟨"."⟩ [⟨"a.js", .script⟩]).issues).isComplete =
        true := by
  have hjoin : Path.join ⟨"."⟩ ⟨"a.js"⟩ = ⟨"./a.js"⟩ := by decide
  have hsources : readSources (scriptTree brokenScript) ⟨"."⟩ [⟨"a.js", .script⟩] =
      [(⟨"a.js", .script⟩, brokenScript)] := by
    rw [readSources, List.filterMap_cons, hjoin, scriptTree_read]
    rfl
  obtain ⟨hmargin, -, hcomplete⟩ := report_completes_iff
    (buildCatalog_showsOnly (scriptTree brokenScript) ⟨"."⟩ [⟨"a.js", .script⟩])
  rw [hsources] at hmargin hcomplete
  exact ⟨by decide +kernel, hmargin (by decide +kernel),
    hcomplete 3 terminalWidth_le (by decide +kernel)⟩

/-! ## A call far to the right -/

/-- A refused call of a marker. -/
def refusedTag : String := "\x7b\x7b _(x) \x7d\x7d"

/-- A refused call behind blanks. -/
def indented (n : Nat) : String := blanks n ++ refusedTag

theorem toList_indented (n : Nat) :
    (indented n).toList = List.replicate n ' ' ++ refusedTag.toList := by
  rw [indented, blanks, String.toList_append, String.toList_ofList]

theorem utf8Length_blanks (n : Nat) : utf8Length (List.replicate n ' ') = n := by
  induction n with
  | zero => rfl
  | succ n ih =>
    rw [List.replicate_succ, utf8Length, ih]
    exact Nat.add_comm 1 n

namespace Template

theorem cutData_blanks (n : Nat) {c : Char} {cs : List Char} (h : (opening? (c :: cs)).isSome) :
    cutData (List.replicate n ' ' ++ c :: cs) = (List.replicate n ' ', c :: cs) := by
  induction n with
  | zero => rw [List.replicate_zero, List.nil_append, cutData, if_pos h]
  | succ n ih =>
    rw [List.replicate_succ, List.cons_append, cutData, if_neg (by simp [opening?]), ih]

/-- Blanks in front of a tag are a token of their own. -/
theorem stepOutside_blanks (n offset : Nat) {c : Char} {cs : List Char}
    (h : (opening? (c :: cs)).isSome) (hsign : (c :: cs)[2]? ≠ some '-') :
    stepOutside ⟨List.replicate (n + 1) ' ' ++ c :: cs, offset⟩ =
      .emit (.data (List.replicate (n + 1) ' ')) offset .outside ⟨c :: cs, offset + (n + 1)⟩ := by
  have hopening : opening? (List.replicate (n + 1) ' ' ++ c :: cs) = none := by
    simp [List.replicate_succ, opening?]
  unfold stepOutside
  dsimp only
  split
  case h_1 hnil => simp at hnil
  case h_2 =>
    rw [hopening, cutData_blanks (n + 1) h]
    dsimp only
    rw [if_neg hsign, Cursor.past, utf8Length_blanks]
    simp

theorem dropFinalNewline_indented (n : Nat) :
    dropFinalNewline (indented n).toList = (indented n).toList := by
  have hlast : (indented n).toList.getLast? = some '\x7d' := by
    rw [toList_indented, List.getLast?_append]
    rfl
  unfold dropFinalNewline
  simp [hlast]

theorem scan_indented (n : Nat) : scan (indented (n + 1)) =
    ⟨[⟨.data (List.replicate (n + 1) ' '), 0⟩, ⟨.variableStart, n + 1⟩, ⟨.identifier "_", n + 4⟩,
      ⟨.symbol .parenOpen, n + 5⟩, ⟨.identifier "x", n + 6⟩, ⟨.symbol .parenClose, n + 7⟩,
      ⟨.variableEnd, n + 9⟩], none⟩ := by
  have hlength : (indented (n + 1)).toList.length + 1 = n + 11 + 1 := by
    rw [toList_indented, List.length_append, List.length_replicate]
    have htag : refusedTag.toList.length = 10 := by decide
    omega
  have hstep : step .outside 0 (Cursor.start (indented (n + 1)).toList) =
      .emit (.data (List.replicate (n + 1) ' ')) 0 .outside ⟨refusedTag.toList, 0 + (n + 1)⟩ := by
    rw [toList_indented]
    exact stepOutside_blanks n 0 (by decide) (by decide)
  unfold scan
  dsimp only
  rw [dropFinalNewline_indented, hlength, scanFrom, hstep, Nat.zero_add]
  rfl

theorem parse_indented (n : Nat) : parse (indented (n + 1)) =
    .ok ⟨[.data (List.replicate (n + 1) ' '),
      .emit (.call (.mk (n + 4) (.var "_") [.positional (.var "x")]))]⟩ := by
  unfold parse
  rw [scan_indented]
  cbv

end Template

/-- What stands in front of the call. -/
def beforeIndented (n : Nat) : List Char := List.replicate n ' ' ++ "\x7b\x7b ".toList

theorem toList_indented_eq (n : Nat) :
    (indented n).toList = beforeIndented n ++ "_(x) \x7d\x7d".toList := by
  rw [toList_indented, beforeIndented, List.append_assoc]
  rfl

theorem newline_notMem_beforeIndented (n : Nat) : '\n' ∉ beforeIndented n := by
  intro hmem
  rcases List.mem_append.1 hmem with hmem | hmem
  · exact absurd (List.eq_of_mem_replicate hmem) (by decide)
  · exact absurd hmem (by decide)

theorem length_beforeIndented (n : Nat) : (beforeIndented n).length = n + 3 := by
  rw [beforeIndented, List.length_append, List.length_replicate]
  rfl

theorem position_indented (n : Nat) :
    Position.atOffset (indented n).toList (n + 3) = ⟨1, n + 4⟩ := by
  have hbytes : utf8Length (beforeIndented n) = n + 3 := by
    rw [beforeIndented, utf8Length_append, utf8Length_blanks]
    rfl
  have hnewline := newline_notMem_beforeIndented n
  rw [Position.atOffset_eq, toList_indented_eq, ← hbytes, takeBytes_utf8Length, Position.after_eq,
    List.count_eq_zero_of_not_mem hnewline, lastLine_of_notMem hnewline, length_beforeIndented]

theorem context_indented (file : String) (n : Nat) :
    Context.of file (indented n) ⟨1, n + 4⟩ = ⟨file, ⟨1, n + 4⟩, indented n⟩ := by
  have hnewline := newline_notMem_beforeIndented n
  have htext : (Context.of file (indented n) ⟨1, n + 4⟩).text.toList = (indented n).toList := by
    rw [Context.toList_text_of file (toList_indented_eq n) (by rintro ⟨-, hhead⟩; cases hhead)
      (by rw [List.count_eq_zero_of_not_mem hnewline]), lastLine_of_notMem hnewline,
      toList_indented_eq]
    rfl
  rw [Context.of, Context.mk.injEq]
  exact ⟨rfl, rfl, String.toList_inj.1 htext⟩

theorem indented_issues (file : String) (n : Nat) :
    (extract .template file (indented (n + 1))).issues =
      [.invalidCall ⟨file, ⟨1, n + 5⟩, indented (n + 1)⟩ .nonLiteral] := by
  have hsites : SourceKind.template.sites (indented (n + 1)) =
      .ok [⟨some "_", ⟨1, n + 5⟩, [.expression]⟩] := by
    rw [← position_indented (n + 1)]
    exact Template.sites_of_parse (Template.parse_indented n)
  unfold extract
  rw [hsites, ← context_indented file (n + 1)]
  rfl

theorem terminalScan_blanks (n : Nat) {text : List Char}
    (h : (terminalScan text).2 = .other) :
    terminalScan (List.replicate n ' ' ++ text) = (n + (terminalScan text).1, .other) := by
  induction n with
  | zero => rw [List.replicate_zero, List.nil_append, Nat.zero_add, ← h]
  | succ n ih =>
    have hblank : (displayWidth ' ', Opening.ofChar ' ') = (1, .other) := by decide
    rw [List.replicate_succ, List.cons_append, terminalScan, ih]
    dsimp only [Opening.ligature?]
    rw [Option.getD_none, hblank, ← Nat.add_assoc, Nat.add_comm 1 n]

theorem caretPadding_indented (file : String) (n : Nat) :
    Report.caretPadding ⟨file, ⟨1, n + 4⟩, indented n⟩ = n + 3 := by
  have hwidth : terminalWidth (beforeIndented n) = n + 3 := by
    rw [terminalWidth, beforeIndented, terminalScan_blanks n (by decide +kernel)]
    rfl
  rw [Report.caretPadding, toList_indented_eq, Nat.add_sub_cancel (n + 3) 1,
    List.take_left' (length_beforeIndented n)]
  exact hwidth

/-- **The report of a call behind blanks** is complete exactly if no more columns
    stand before its caret than can be printed. -/
theorem indented_completes_iff (file : String) (n : Nat) :
    (report (extract .template file (indented (n + 1))).issues).isComplete = true ↔
      n + 4 ≤ Report.caretLimit := by
  rw [indented_issues, Report.isComplete_iff]
  simp [Report.fits, Issue.place, caretPadding_indented file (n + 1)]

/-- Behind 65533 blanks there are 65536 columns before the caret of the call. -/
theorem indented_breaks_off :
    (extract .template "a.html" (indented 65533)).issues =
        [.invalidCall ⟨"a.html", ⟨1, 65537⟩, indented 65533⟩ .nonLiteral] ∧
      Report.caretPadding ⟨"a.html", ⟨1, 65537⟩, indented 65533⟩ = 65536 ∧
      (report (extract .template "a.html" (indented 65533)).issues).isComplete = false := by
  refine ⟨indented_issues "a.html" 65532, caretPadding_indented "a.html" 65533, ?_⟩
  rw [Bool.eq_false_iff, Ne, indented_completes_iff "a.html" 65532]
  decide

end PotCatalog
