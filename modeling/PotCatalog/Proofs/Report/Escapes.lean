/-
  Escape characters in reports.

  A report holds the texts of its issues and texts of its own, and none of the
  latter holds an escape character.  So if the texts of all issues are free of
  escape characters, then all pieces of the report are (`isEscapeFree_report`).
-/
import PotCatalog.Proofs.Text.LastLine
import PotCatalog.Proofs.Text.Styling
import PotCatalog.Report

namespace PotCatalog

/-! ## Texts of issues -/

/-- The texts that a context holds. -/
def Context.texts (context : Context) : List String := [context.file, context.text]

/-- The texts that a refusal holds. -/
def Refusal.texts : Refusal → List String
  | unknownMarker name => [name]
  | _ => []

/-- The texts that an issue holds. -/
def Issue.texts : Issue → List String
  | parseError file context error => file :: error :: (context.map Context.texts).getD []
  | invalidCall context reason => context.texts ++ reason.texts
  | pluralConflict conflict =>
    [conflict.location.path, conflict.msgid] ++ conflict.kept.toList ++ conflict.conflicting.toList

/-- An issue whose texts hold no escape character. -/
def Issue.IsEscapeFree (issue : Issue) : Prop := ∀ text ∈ issue.texts, '\x1b' ∉ text.toList

@[simp] theorem escape_notMem_blanks (n : Nat) : '\x1b' ∉ (blanks n).toList := by simp [blanks]

@[simp] theorem escape_mem_padLeft_iff {width : Nat} {text : String} :
    '\x1b' ∈ (padLeft width text).toList ↔ '\x1b' ∈ text.toList := by
  simp [padLeft]

theorem subset_of_mem_lines {text line : List Char} (h : line ∈ lines text) : line ⊆ text := by
  induction text generalizing line with
  | nil => cases h
  | cons c text ih =>
    by_cases hc : c = '\n'
    · rw [hc, lines_newline] at h
      rcases List.mem_cons.1 h with rfl | h
      · exact List.nil_subset _
      · exact List.subset_cons_of_subset _ (ih h)
    · by_cases hreturn : c = '\r' ∧ text.head? = some '\n'
      · obtain ⟨rfl, hhead⟩ := hreturn
        obtain ⟨rest, rfl⟩ := List.head?_eq_some_iff.1 hhead
        rw [lines_return] at h
        exact List.subset_cons_of_subset _ (ih h)
      · rw [lines_cons hc hreturn] at h
        rcases List.mem_cons.1 h with rfl | h
        · cases hlines : lines text with
          | nil => simp
          | cons first rest =>
            have hfirst := ih (hlines ▸ List.mem_cons_self : first ∈ lines text)
            exact List.cons_subset_cons c hfirst
        · exact List.subset_cons_of_subset _ (ih (List.mem_of_mem_tail h))

theorem escape_notMem_of_mem_textLines {text line : String} (htext : '\x1b' ∉ text.toList)
    (h : line ∈ textLines text) : '\x1b' ∉ line.toList := by
  obtain ⟨chars, hchars, rfl⟩ := List.mem_map.1 h
  rw [String.toList_ofList]
  exact fun hmem => htext (subset_of_mem_lines hchars hmem)

namespace Issue

variable {issue : Issue} (h : issue.IsEscapeFree)
include h

theorem IsEscapeFree.headline : '\x1b' ∉ issue.headline.toList := by
  rcases issue with ⟨file, context, error⟩ | ⟨context, reason⟩ | conflict
  case parseError =>
    have hfile : '\x1b' ∉ file.toList := h _ (by simp [texts])
    show '\x1b' ∉ ("Error while parsing " ++ file).toList
    simp [hfile]
  case invalidCall =>
    have hfile : '\x1b' ∉ context.file.toList := h _ (by simp [texts, Context.texts])
    have hmessage : '\x1b' ∉ reason.message.toList := by
      rcases reason with _ | ⟨_ | _⟩ | _ | _ <;> simp [Refusal.message]
    show '\x1b' ∉ (refusalText context reason).toList
    simp [refusalText, hfile, hmessage]
  case pluralConflict =>
    have hpath : '\x1b' ∉ conflict.location.path.toList := h _ (by simp [texts])
    have hmsgid : '\x1b' ∉ conflict.msgid.toList := h _ (by simp [texts])
    show '\x1b' ∉ ("Conflicting plural form for \"" ++ conflict.msgid ++ "\" at " ++
      conflict.location.text).toList
    simp [Location.text, hpath, hmsgid]

theorem IsEscapeFree.details {details : String} (hdetails : issue.details = some details) :
    '\x1b' ∉ details.toList := by
  rcases issue with ⟨file, context, error⟩ | ⟨context, reason⟩ | conflict
  case parseError =>
    obtain rfl := Option.some.inj hdetails
    exact h _ (by simp [texts])
  case invalidCall =>
    cases reason <;> cases hdetails
    case unknownMarker name => simpa using h name (by simp [texts, Refusal.texts])
  case pluralConflict =>
    obtain rfl := Option.some.inj hdetails
    have hplural (plural : Option String) (hsub : ∀ text ∈ plural, '\x1b' ∉ text.toList) :
        '\x1b' ∉ (describePlural plural).toList := by
      cases plural with
      | none => simp [describePlural]
      | some text => simpa [describePlural] using hsub text rfl
    have hkept := hplural conflict.kept fun text htext => h _ (by simp_all [texts])
    have hconflicting := hplural conflict.conflicting fun text htext => h _ (by simp_all [texts])
    simp [hkept, hconflicting]

end Issue

/-! ## Pieces of reports -/

namespace Report

variable {margin : Nat} {issue : Issue}

theorem isEscapeFree_noteLine {label detail : String} (hlabel : '\x1b' ∉ label.toList)
    (hdetail : '\x1b' ∉ detail.toList) :
    StyledText.IsEscapeFree (noteLine margin label detail) := by
  simp [noteLine, plain, styled, hlabel, hdetail]

theorem isEscapeFree_note {details : String} (h : '\x1b' ∉ details.toList) :
    (note margin details).IsEscapeFree := by
  unfold note
  split
  case h_1 => exact StyledText.isEscapeFree_nil
  case h_2 first rest hlines =>
    have hfree (line : String) (hline : line ∈ first :: rest) : '\x1b' ∉ line.toList :=
      escape_notMem_of_mem_textLines h (hlines ▸ hline)
    refine StyledText.isEscapeFree_append.2
      ⟨isEscapeFree_noteLine (by simp) (hfree _ List.mem_cons_self), ?_⟩
    exact StyledText.isEscapeFree_flatMap fun line hline =>
      isEscapeFree_noteLine (by simp) (hfree _ (List.mem_cons_of_mem _ hline))

theorem isEscapeFree_contextLines {context : Context}
    (h : ∀ text ∈ context.texts, '\x1b' ∉ text.toList) :
    (placeLines margin (.source context)).IsEscapeFree := by
  have hfile : '\x1b' ∉ context.file.toList := h _ (by simp [Context.texts])
  have htext : '\x1b' ∉ context.text.toList := h _ (by simp [Context.texts])
  simp [placeLines, pointer, excerpt, plain, styled, hfile, htext]

theorem isEscapeFree_placeLines (h : issue.IsEscapeFree) :
    (placeLines margin issue.place).IsEscapeFree := by
  rcases issue with ⟨file, _ | context, error⟩ | ⟨context, reason⟩ | conflict
  case parseError.none =>
    have hfile : '\x1b' ∉ file.toList := h _ (by simp [Issue.texts])
    simp [Issue.place, placeLines, pointer, plain, styled, hfile]
  case parseError.some =>
    exact isEscapeFree_contextLines fun text htext => h _ (by simp [Issue.texts, htext])
  case invalidCall =>
    exact isEscapeFree_contextLines fun text htext => h _ (by simp [Issue.texts, htext])
  case pluralConflict =>
    have hpath : '\x1b' ∉ conflict.location.path.toList := h _ (by simp [Issue.texts])
    simp [Issue.place, placeLines, pointer, Location.text, plain, styled, hpath]

theorem isEscapeFree_issueHead (h : issue.IsEscapeFree) :
    (issueHead margin issue).IsEscapeFree := by
  have hname : '\x1b' ∉ issue.severity.name.toList := by
    cases issue.severity <;> simp [Severity.name]
  have hrule : '\x1b' ∉ issue.rule.toList := by cases issue <;> simp [Issue.rule]
  refine StyledText.isEscapeFree_append.2 ⟨?_, isEscapeFree_placeLines h⟩
  simp [plain, styled, hname, hrule, h.headline]

theorem isEscapeFree_issueTail [TextMeasure] (h : issue.IsEscapeFree) :
    (issueTail margin issue).IsEscapeFree := by
  refine StyledText.isEscapeFree_append.2 ⟨StyledText.isEscapeFree_append.2 ⟨?_, ?_⟩, ?_⟩
  · split
    · simp [caretLine, plain, styled]
    · exact StyledText.isEscapeFree_nil
  · split
    case h_1 details hdetails => exact isEscapeFree_note (h.details hdetails)
    case h_2 => exact StyledText.isEscapeFree_nil
  · simp [plain]

theorem isEscapeFree_summary (issues : List Issue) : (summary issues).IsEscapeFree := by
  have hword (n : Nat) (one many : String) (hone : '\x1b' ∉ one.toList)
      (hmany : '\x1b' ∉ many.toList) : '\x1b' ∉ (if n = 1 then one else many).toList := by
    split_ifs <;> assumption
  simp [summary, counted, failureMark, plain, styled, hword]

theorem isEscapeFree_report [TextMeasure] {issues : List Issue}
    (h : ∀ issue ∈ issues, issue.IsEscapeFree) : (report issues).text.IsEscapeFree := by
  have hprinted : StyledText.IsEscapeFree
      ((issues.takeWhile fits).flatMap (issueLines (marginWidth issues))) := by
    refine StyledText.isEscapeFree_flatMap fun issue hissue => ?_
    have hfree := h issue ((List.takeWhile_sublist _).subset hissue)
    exact StyledText.isEscapeFree_append.2
      ⟨isEscapeFree_issueHead hfree, isEscapeFree_issueTail hfree⟩
  unfold report
  dsimp only
  split
  case h_1 wide rest hrest =>
    have hwide : wide ∈ issues :=
      (List.dropWhile_sublist _).subset (hrest ▸ List.mem_cons_self)
    exact StyledText.isEscapeFree_append.2 ⟨hprinted, isEscapeFree_issueHead (h wide hwide)⟩
  case h_2 =>
    split_ifs
    · exact StyledText.isEscapeFree_nil
    · exact StyledText.isEscapeFree_append.2 ⟨hprinted, isEscapeFree_summary issues⟩

end Report

end PotCatalog
