/-
  The layout of reports.

  A report is made of lines with a margin that has room for every line number
  shown, since a smaller number has no more digits than a larger one.

  `report_layout`: taking the styling out of a coloured report leaves the
  uncoloured one, and all bars and signs stand in one column, behind a margin as
  wide as the largest line number.
-/
import PotCatalog.Proofs.Report.Escapes
import PotCatalog.Proofs.Report.Gutter

namespace PotCatalog

/-! ## Lines of reports -/

namespace Report

variable {width : Nat}

theorem not_isMark_of_styles {piece : Piece} (h : piece.styles ≠ [.blue]) : ¬ piece.IsMark := by
  rintro (rfl | rfl) <;> exact h rfl

@[simp] theorem not_isMark_plain (text : String) : ¬ (plain text).IsMark :=
  not_isMark_of_styles (by simp [plain])

theorem isMark_bar : (styled [.blue] "|").IsMark := Or.inl rfl

theorem isMark_sign : (styled [.blue] "=").IsMark := Or.inr rfl

theorem isBlock_pointer (text : String) : IsBlock width 0 (pointer text) :=
  .of_forall_not (by simp [pointer, Piece.IsMark, styled, plain])
    (getLast?_render_concat [plain "  ", styled [.blue] "-->"] (getLast?_newline _))

theorem isBlock_excerpt {context : Context}
    (h : (toString context.position.line).length ≤ width) :
    IsBlock width 2 (excerpt width context) := by
  have hempty : IsBlock width 1
      ([plain (blanks width ++ " ")] ++ styled [.blue] "|" :: [plain "\n"]) :=
    .line (by simp) (isMargin_start width) isMark_bar (by simp)
      (getLast?_render_concat [] (by decide))
  have hline : IsBlock width 1
      ([styled [.blue] (padLeft width (toString context.position.line)), plain " "] ++
        styled [.blue] "|" :: [plain (" " ++ context.text ++ "\n")]) := by
    refine .line ?_ ?_ isMark_bar (by simp) (getLast?_render_concat [] (getLast?_newline _))
    · exact List.forall_mem_cons.2 ⟨not_isMark_number width _, by simp⟩
    · simpa [StyledText.render, Piece.render_false, plain, styled] using isMargin_padLeft h
  exact hempty.append hline

theorem isBlock_caretLine [TextMeasure] (severity : Severity) (context : Context) :
    IsBlock width 1 (caretLine width severity context) := by
  have hcaret : ¬ (styled [severityColor severity] "^").IsMark :=
    not_isMark_of_styles (by cases severity <;> simp [severityColor, styled])
  show IsBlock width 1 ([plain (blanks width ++ " ")] ++ styled [.blue] "|" :: [_, _, _])
  refine .line (by simp) (isMargin_start width) isMark_bar (by simp [hcaret]) ?_
  exact getLast?_render_concat [plain _, styled _ _] (by decide)

theorem isBlock_noteLine (label detail : String) :
    IsBlock width 1 (noteLine width label detail) := by
  have hlabel : ¬ (styled [.bold] label).IsMark := not_isMark_of_styles (by simp [styled])
  show IsBlock width 1 ([plain (blanks width ++ " ")] ++ styled [.blue] "=" :: [_, _, _])
  refine .line (by simp) (isMargin_start width) isMark_sign (by simp [hlabel]) ?_
  exact getLast?_render_concat [plain _, styled _ _] (getLast?_newline _)

theorem isBlock_note (details : String) :
    IsBlock width (textLines details).length (note width details) := by
  unfold note
  split
  case h_1 hlines =>
    rw [hlines]
    exact .nil
  case h_2 first rest hlines =>
    have hrest : IsBlock width (rest.map fun _ => 1).sum
        (rest.flatMap (noteLine width "     ")) := .flatMap fun line _ => isBlock_noteLine _ line
    rw [hlines, List.length_cons, Nat.add_comm]
    simpa using (isBlock_noteLine "note:" first).append hrest

end Report

/-! ## Excerpts and notes -/

namespace Issue

/-- The number of the line of the source that is shown with an issue. -/
def excerptLine? (issue : Issue) : Option Nat :=
  match issue.place with
  | .source context => some context.position.line
  | _ => none

/-- The bars beside the line of the source and above it. -/
def excerptBars (issue : Issue) : Nat := if issue.excerptLine?.isSome then 2 else 0

/-- The bar beside the caret. -/
def caretBars (issue : Issue) : Nat := if issue.excerptLine?.isSome then 1 else 0

/-- The signs beside the lines of the note. -/
def noteSigns (issue : Issue) : Nat :=
  match issue.details with
  | some details => (textLines details).length
  | none => 0

/-- The marks of an issue. -/
def gutterMarks (issue : Issue) : Nat :=
  issue.excerptBars + (issue.caretBars + issue.noteSigns)

end Issue

/-- The numbers of the lines of the sources that a report shows. -/
def excerptLines (issues : List Issue) : List Nat := issues.filterMap Issue.excerptLine?

namespace Report

variable {width : Nat} {issue : Issue}

/-- Whether a margin has room for the line number of an issue. -/
def HasRoom (width : Nat) (issue : Issue) : Prop :=
  ∀ line, issue.excerptLine? = some line → (toString line).length ≤ width

theorem isBlock_placeLines (h : HasRoom width issue) :
    IsBlock width issue.excerptBars (placeLines width issue.place) := by
  unfold HasRoom at h
  unfold Issue.excerptBars
  unfold Issue.excerptLine? at h ⊢
  cases hplace : issue.place with
  | source context =>
    rw [hplace] at h
    simpa [placeLines] using (isBlock_pointer _).append (isBlock_excerpt (h _ rfl))
  | line location => exact isBlock_pointer _
  | file path => exact isBlock_pointer _

theorem isBlock_issueHead (h : HasRoom width issue) :
    IsBlock width issue.excerptBars (issueHead width issue) := by
  have hheadline : IsBlock width 0
      ([styled [.bold, severityColor issue.severity] issue.severity.name,
        plain (": " ++ issue.headline ++ "  "), styled [.dimmed, .cyan] issue.rule] ++
        [plain "\n"]) :=
    .of_forall_not (by simp [not_isMark_of_styles, styled])
      (getLast?_render_concat _ (by decide))
  simpa [issueHead] using hheadline.append (isBlock_placeLines h)

theorem isBlock_issueTail [TextMeasure] : IsBlock width (issue.caretBars + issue.noteSigns)
    (issueTail width issue) := by
  have hempty : IsBlock width 0 [plain "\n"] :=
    .of_forall_not (by simp) (getLast?_render_concat [] (by decide))
  unfold issueTail
  refine (IsBlock.append ?_ ?_).append hempty
  · unfold Issue.caretBars Issue.excerptLine?
    cases issue.place with
    | source context => exact isBlock_caretLine _ context
    | line location => exact .nil
    | file path => exact .nil
  · unfold Issue.noteSigns
    cases issue.details with
    | some details => exact isBlock_note details
    | none => exact .nil

theorem isBlock_issueLines [TextMeasure] (h : HasRoom width issue) :
    IsBlock width issue.gutterMarks (issueLines width issue) :=
  (isBlock_issueHead h).append isBlock_issueTail

theorem isBlock_summary (issues : List Issue) : IsBlock width 0 (summary issues) :=
  .of_forall_not (by simp [summary, not_isMark_of_styles, styled])
    (getLast?_render_concat [_, _, _, _, _] (by decide))

/-- Only carets can stand too far to the right. -/
theorem excerptBars_of_not_fits [TextMeasure] (h : fits issue = false) : issue.excerptBars = 2 := by
  unfold fits at h
  unfold Issue.excerptBars Issue.excerptLine?
  cases hplace : issue.place with
  | source context => rfl
  | line location => simp [hplace] at h
  | file path => simp [hplace] at h

/-! ## The width of the margin -/

theorem marginWidth_eq (issues : List Issue) :
    marginWidth issues =
      ((excerptLines issues).max?.map fun line => (toString line).length).getD 1 := by
  unfold marginWidth
  dsimp only
  split
  case h_1 line hmax =>
    have hmax : (excerptLines issues).max? = some line := hmax
    rw [hmax, Option.map_some, Option.getD_some]
  case h_2 hmax =>
    have hmax : (excerptLines issues).max? = none := hmax
    rw [hmax, Option.map_none, Option.getD_none]

theorem marginWidth_of_nil {issues : List Issue} (h : excerptLines issues = []) :
    marginWidth issues = 1 := by
  rw [marginWidth_eq, h]
  rfl

theorem marginWidth_of_max {issues : List Issue} {line : Nat} (hline : line ∈ excerptLines issues)
    (hmax : ∀ other ∈ excerptLines issues, other ≤ line) :
    marginWidth issues = (toString line).length := by
  rw [marginWidth_eq, List.max?_eq_some_iff.2 ⟨hline, hmax⟩]
  rfl

theorem hasRoom_of_mem {issues : List Issue} (h : issue ∈ issues) :
    HasRoom (marginWidth issues) issue := by
  intro line hline
  have hmem : line ∈ excerptLines issues := List.mem_filterMap.2 ⟨issue, h, hline⟩
  cases hmax : (excerptLines issues).max? with
  | none => exact absurd (List.max?_eq_none_iff.1 hmax) (List.ne_nil_of_mem hmem)
  | some largest =>
    obtain ⟨hlargest, hle⟩ := List.max?_eq_some_iff.1 hmax
    rw [marginWidth_of_max hlargest hle, length_toString, length_toString]
    exact length_toDigits_le (hle line hmem)

/-! ## Whole reports -/

theorem isBlock_report [TextMeasure] (issues : List Issue) :
    IsBlock (marginWidth issues)
      (((issues.takeWhile fits).map Issue.gutterMarks).sum +
        if (report issues).isComplete then 0 else 2)
      (report issues).text := by
  have hprinted : IsBlock (marginWidth issues) ((issues.takeWhile fits).map Issue.gutterMarks).sum
      ((issues.takeWhile fits).flatMap (issueLines (marginWidth issues))) :=
    .flatMap fun issue hissue =>
      isBlock_issueLines (hasRoom_of_mem ((List.takeWhile_sublist _).subset hissue))
  unfold report
  dsimp only
  split
  case h_1 wide rest hrest =>
    have hwide : wide ∈ issues :=
      (List.dropWhile_sublist _).subset (hrest ▸ List.mem_cons_self)
    have hbars : wide.excerptBars = 2 := by
      have hfits := List.head?_dropWhile_not fits issues
      rw [hrest] at hfits
      exact excerptBars_of_not_fits hfits
    simpa [hbars] using hprinted.append (isBlock_issueHead (hasRoom_of_mem hwide))
  case h_2 =>
    cases issues with
    | nil => exact .nil
    | cons issue issues => exact hprinted.append (isBlock_summary (issue :: issues))

end Report

/-- **The layout of a report**: without its styling sequences it is what it is
    without colours, unless the texts of the issues hold escape characters.  The
    margin is as wide as the largest line number shown, and the bars of all
    excerpts and the signs of all notes stand one blank behind it. -/
theorem report_layout [TextMeasure] (issues : List Issue) :
    ((∀ issue ∈ issues, issue.IsEscapeFree) →
        withoutStyling ((report issues).text.render true).toList =
          ((report issues).text.render false).toList) ∧
      (excerptLines issues = [] → Report.marginWidth issues = 1) ∧
      (∀ line ∈ excerptLines issues, (∀ other ∈ excerptLines issues, other ≤ line) →
        Report.marginWidth issues = (Nat.toDigits 10 line).length) ∧
      (∀ above mark below, (report issues).text = above ++ mark :: below → mark.IsMark →
        IsMargin (Report.marginWidth issues) (lastLine (StyledText.render false above).toList)) ∧
      (report issues).text.countP (·.IsMark) =
        ((issues.takeWhile Report.fits).map Issue.gutterMarks).sum +
          if (report issues).isComplete then 0 else 2 := by
  refine ⟨fun hfree => ?_, Report.marginWidth_of_nil, fun line hline hmax => ?_,
    fun above mark below htext hmark => ?_, (Report.isBlock_report issues).count⟩
  · exact StyledText.withoutStyling_render (Report.isEscapeFree_report hfree)
  · rw [Report.marginWidth_of_max hline hmax, length_toString]
  · exact (htext ▸ (Report.isBlock_report issues).aligned).isMargin hmark

/-- A refused call, a file that could not be parsed and a conflict. -/
def mixedIssues : List Issue :=
  [.invalidCall ⟨"a.html", ⟨9, 4⟩, "{{ _(name) }}"⟩ .nonLiteral,
   .parseError "b.html" (some ⟨"b.html", ⟨10, 1⟩, "{% for %}"⟩) "unexpected tag\nexpected a name",
   .pluralConflict ⟨⟨"c.html", 120⟩, "apple", some "apples", none⟩]

/-- The margin of line 9 is as wide as the one of line 10; the conflict has no
    margin of its own, but the sign of its note is the ninth mark. -/
theorem mixedIssues_layout :
    withoutStyling ((report mixedIssues).text.render true).toList =
        ((report mixedIssues).text.render false).toList ∧
      Report.marginWidth mixedIssues = 2 ∧
      IsMargin 2 (lastLine
        (StyledText.render false ((report mixedIssues).text.take 12)).toList) ∧
      IsMargin 2 (lastLine
        (StyledText.render false ((report mixedIssues).text.take 58)).toList) ∧
      (report mixedIssues).text.countP (·.IsMark) = 9 := by
  obtain ⟨hstyling, -, hwidth, hmarks, hcount⟩ := report_layout mixedIssues
  have hfree : ∀ issue ∈ mixedIssues, issue.IsEscapeFree := by
    simp [mixedIssues, Issue.IsEscapeFree, Issue.texts, Context.texts, Refusal.texts]
  have hlines : excerptLines mixedIssues = [9, 10] := rfl
  have hten : Report.marginWidth mixedIssues = 2 := hwidth 10 (by simp [hlines]) (by simp [hlines])
  have hbar : (report mixedIssues).text =
      (report mixedIssues).text.take 12 ++ styled [.blue] "|" ::
        (report mixedIssues).text.drop 13 := by decide +kernel
  have hsign : (report mixedIssues).text =
      (report mixedIssues).text.take 58 ++ styled [.blue] "=" ::
        (report mixedIssues).text.drop 59 := by decide +kernel
  rw [hten] at hmarks
  refine ⟨hstyling hfree, hten, hmarks _ _ _ hbar (Or.inl rfl), hmarks _ _ _ hsign (Or.inr rfl), ?_⟩
  rw [hcount]
  decide +kernel

end PotCatalog
