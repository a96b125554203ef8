/-
  Where the carets of refused calls stand.

  A report indents a caret by the width of as many characters of the line as
  there are columns before the call.  The columns of a template are characters,
  so its carets stand below their calls, whatever the measure of texts.  Those of
  a script are display columns, of which a tab has four and an emoji three: its
  carets stand below their calls exactly if as many characters are as wide as the
  text before the call (`extract_carets`).
-/
import PotCatalog.Extract
import PotCatalog.Proofs.Script.Survey
import PotCatalog.Proofs.Template.DocumentOrder
import PotCatalog.Proofs.Template.Starts
import PotCatalog.Report

namespace PotCatalog

/-! ## Carets -/

/-- The caret of a context stands below the end of a text of its line: its line
    is indented by the width of that text. -/
def Context.PointsBehind [TextMeasure] (context : Context) (before : List Char) : Prop :=
  ∀ margin severity color, (Report.caretLine margin severity context).render color =
    StyledText.render color [plain (blanks margin ++ " "), styled [.blue] "|", plain " "] ++
      blanks (textWidth before) ++
      StyledText.render color [styled [Report.severityColor severity] "^", plain "\n"]

theorem Context.pointsBehind_iff [TextMeasure] {context : Context} {before : List Char} :
    context.PointsBehind before ↔ Report.caretPadding context = textWidth before := by
  constructor
  · intro h
    have hlength := congrArg String.length (h 0 .error false)
    simp [Report.caretLine, StyledText.render, Piece.render, plain, styled, blanks] at hlength
    have hbar : " | ".length = " ".length + "|".length + " ".length := by decide
    omega
  · intro h margin severity color
    simp [Report.caretLine, StyledText.render, Piece.render, plain, h, String.append_assoc]

/-- The caret of column `n + 1` stands behind the start of its line exactly if that
    is as wide as the first `n` characters of the line. -/
theorem Context.pointsBehind_iff_of_column [TextMeasure] {context : Context}
    {before behind : List Char} {n : Nat} (hline : context.text.toList = before ++ behind)
    (hcolumn : context.position.column = n + 1) :
    (context.PointsBehind before ↔ textWidth ((before ++ behind).take n) = textWidth before) ∧
      (n = before.length → context.PointsBehind before) := by
  have hpoints : context.PointsBehind before ↔
      textWidth ((before ++ behind).take n) = textWidth before := by
    rw [pointsBehind_iff, Report.caretPadding, hline, hcolumn, Nat.add_sub_cancel]
  exact ⟨hpoints, fun hn => hpoints.2 (by rw [hn, List.take_left])⟩

/-- The line of a place, with the number of the newlines before it. -/
theorem Context.toList_text_of (file : String) {source : String} {before rest : List Char}
    (hsource : source.toList = before ++ rest) (hsplits : ¬ SplitsEnding before rest)
    {p : Position} (hline : p.line = before.count '\n' + 1) :
    (Context.of file source p).text.toList = lastLine before ++ (lines rest).head?.getD [] := by
  rw [← lines_append hsplits, Context.of, hline, lineAt, textLines, hsource, List.getElem?_map]
  cases (lines (before ++ rest))[before.count '\n']? with
  | none => rfl
  | some line => exact String.toList_ofList

/-! ## Refused calls -/

/-- A call is refused, with the context of its place. -/
def MarkerSet.Refuses (markers : MarkerSet) (file source : String) (call : CallSite)
    (context : Context) (reason : Refusal) : Prop :=
  markers.judge file call = .refused reason ∧ context = Context.of file source call.position

theorem MarkerSet.mem_refusals_iff {markers : MarkerSet} {file source : String}
    {calls : List CallSite} {context : Context} {reason : Refusal} :
    .invalidCall context reason ∈ markers.refusals file source calls ↔
      ∃ call ∈ calls, markers.Refuses file source call context reason := by
  rw [refusals, List.mem_filterMap]
  refine exists_congr fun call => and_congr_right fun _ => ?_
  unfold Refuses
  cases markers.judge file call <;> simp [eq_comm, and_comm]

/-- The refused calls of a source that can be read are its issues. -/
theorem invalidCall_mem_extract_iff {kind : SourceKind} {file source : String}
    {calls : List CallSite} (h : kind.sites source = .ok calls) {context : Context}
    {reason : Refusal} :
    .invalidCall context reason ∈ (extract kind file source).issues ↔
      ∃ call ∈ calls, kind.markers.Refuses file source call context reason := by
  unfold extract
  rw [h]
  exact MarkerSet.mem_refusals_iff

/-! ## Templates -/

namespace Template

/-- **The caret of a call in a template** stands behind what is written before
    the call on its line: a report measures that very text. -/
theorem pointsBehind_of_call [TextMeasure] {source : String} {tree : Tree}
    (h : parse source = .ok tree) {c : Call} (hc : c ∈ tree.calls) {file : String} {context : Context}
    (hcontext : context = Context.of file source (c.site source.toList).position) :
    ∃ before first rest, source.toList = before ++ first :: rest ∧ c.start = utf8Length before ∧
      context.text.toList.take (context.position.column - 1) = lastLine before ∧
      context.PointsBehind (lastLine before) := by
  obtain ⟨lexeme, hlexeme, hstart⟩ := List.mem_map.1 ((parse_standsAt_scan h).starts c hc)
  obtain ⟨before, first, rest, hsource, hoffset, hsplits⟩ := scan_startsIn source lexeme hlexeme
  have hposition : (c.site source.toList).position =
      ⟨before.count '\n' + 1, (lastLine before).length + 1⟩ := by
    rw [Call.site, Position.atOffset_eq, ← hstart, hoffset, hsource, takeBytes_utf8Length,
      Position.after_eq]
  have hmeasured : context.text.toList.take (context.position.column - 1) = lastLine before := by
    rw [hcontext, Context.toList_text_of file hsource hsplits (by rw [hposition]), Context.of,
      hposition, Nat.add_sub_cancel, List.take_left]
  refine ⟨before, first, rest, hsource, hstart ▸ hoffset, hmeasured, ?_⟩
  rw [Context.pointsBehind_iff, Report.caretPadding, hmeasured]

end Template

/-! ## Scripts -/

namespace Script

/-- The columns of a text in a script. -/
def columns (text : List Char) : Nat := (text.map columnWidth).sum

/-- A call starts behind a text, in front of which the mark of the byte order may
    stand, and a carriage return before the call is always part of a line ending
    of two signs. -/
structure Call.Follows (c : Call) (source : String) (mark before : List Char) : Prop where
  exists_rest : ∃ first rest, source.toList = mark ++ (before ++ first :: rest) ∧
    withoutMark source.toList = before ++ first :: rest
  start_eq : c.start = utf8Length before
  before_newline : ∀ above below, before = above ++ '\r' :: below → below.head? = some '\n'

theorem mark_cases {mark text : List Char} (h : withoutMark (mark ++ text) = text) :
    mark = [] ∨ mark = ['\uFEFF'] := by
  cases mark with
  | nil => exact Or.inl rfl
  | cons c mark =>
    rw [List.cons_append, withoutMark] at h
    split_ifs at h with hc
    · obtain rfl : mark = [] := List.append_left_eq_self.1 h
      have hmark : c = '\uFEFF' := Char.toNat_inj.1 (by simpa using hc)
      exact Or.inr (hmark ▸ rfl)
    · have hlength := congrArg List.length h
      simp at hlength
      omega

/-- **The position of a call** counts the newlines before it, and the columns of
    what is written before it on its line. -/
theorem positionFrom_eq {before : List Char} (first : Char) (rest : List Char) (p : Position)
    (h : ∀ above below, before = above ++ '\r' :: below → below.head? = some '\n') :
    positionFrom p (utf8Length before) (before ++ first :: rest) =
      before.foldl (Position.stepBy columnWidth) p := by
  induction before generalizing p with
  | nil => simp [positionFrom, utf8Length, Char.utf8Size_pos]
  | cons c before ih =>
    have hrest : ∀ p, positionFrom p (utf8Length (c :: before) - c.utf8Size)
        (before ++ first :: rest) = before.foldl (Position.stepBy columnWidth) p := by
      intro p
      rw [utf8Length, Nat.add_sub_cancel_left]
      exact ih p fun above below heq => h (c :: above) below (by rw [heq, List.cons_append])
    have hreturn : c = '\r' → (before ++ first :: rest).head? = some '\n' := by
      rintro rfl
      rw [List.head?_append, h [] before rfl]
      rfl
    rw [List.cons_append, positionFrom, if_neg (by simp [utf8Length]), List.foldl_cons]
    dsimp only
    rw [hrest, hrest, Position.stepBy]
    by_cases hnewline : c = '\n'
    · simp [hnewline]
    · have hends :
          (c == '\n' || (c == '\r' && (before ++ first :: rest).head? != some '\n')) = false := by
        simpa [hnewline] using hreturn
      rw [hends, if_neg hnewline]
      simp

theorem Call.Follows.position_eq {c : Call} {source : String} {mark before : List Char}
    (h : c.Follows source mark before) :
    (c.site (withoutMark source.toList)).position =
      ⟨before.count '\n' + 1, columns (lastLine before) + 1⟩ := by
  obtain ⟨first, rest, -, htext⟩ := h.exists_rest
  rw [Call.site, htext, h.start_eq, positionIn, positionFrom_eq first rest _ h.before_newline,
    Position.foldl_stepBy, columns]

/-- The line that is shown with a call in a script starts with what is written
    before the call, and its column tells how many display columns that takes. -/
theorem exists_line_of_follows {c : Call} {source : String} {mark before : List Char}
    (h : c.Follows source mark before) {file : String} {context : Context}
    (hcontext : context = Context.of file source (c.site (withoutMark source.toList)).position) :
    (∃ behind, context.text.toList = lastLine (mark ++ before) ++ behind) ∧
      context.position.column = columns (lastLine before) + 1 := by
  obtain ⟨first, rest, hsource, htext⟩ := h.exists_rest
  have hmark : mark = [] ∨ mark = ['\uFEFF'] := mark_cases (by rw [← hsource, htext])
  have hsplits : ¬ SplitsEnding (mark ++ before) (first :: rest) := by
    rintro ⟨hlast, -⟩
    rcases List.eq_nil_or_concat before with rfl | ⟨above', c, rfl⟩
    · rcases hmark with rfl | rfl <;> simp at hlast
    · obtain rfl : c = '\r' := by simpa using hlast
      exact absurd (h.before_newline above' [] (by simp)) (by simp)
  have hcount : (mark ++ before).count '\n' = before.count '\n' := by
    rcases hmark with rfl | rfl <;> simp
  rw [← List.append_assoc] at hsource
  have hline := Context.toList_text_of file hsource hsplits
    (p := (c.site (withoutMark source.toList)).position) (by rw [h.position_eq, hcount])
  rw [← hcontext] at hline
  exact ⟨⟨_, hline⟩, by rw [hcontext, Context.of, h.position_eq]⟩

end Script

/-! ## Sources -/

/-- **Carets below calls**, whatever the measure of texts.  Each refused call of a
    template has its caret below it: the caret is indented by the width of what is
    written before the call on its line.  That of a refused call of a script is
    exactly if this text is as wide as the first characters of the line, as many
    as the text has display columns in a script; so it is if each character before
    the call counts as one column. -/
theorem extract_carets [TextMeasure] (file source : String) :
    (∀ tree, Template.parse source = .ok tree → ∀ context reason,
      .invalidCall context reason ∈ (extract .template file source).issues →
      ∃ c ∈ tree.calls, ∃ before first rest,
        SourceKind.template.markers.Refuses file source (c.site source.toList) context reason ∧
        source.toList = before ++ first :: rest ∧ c.start = utf8Length before ∧
        context.text.toList.take (context.position.column - 1) = lastLine before ∧
        context.PointsBehind (lastLine before)) ∧
    ∀ p, Script.read source = .ok p → ∀ context reason,
      .invalidCall context reason ∈ (extract .script file source).issues →
      ∃ c ∈ p.calls,
        SourceKind.script.markers.Refuses file source
          (c.site (Script.withoutMark source.toList)) context reason ∧
        ∀ mark before, c.Follows source mark before →
          ∃ behind, context.text.toList = lastLine (mark ++ before) ++ behind ∧
            (context.PointsBehind (lastLine (mark ++ before)) ↔
              textWidth ((lastLine (mark ++ before) ++ behind).take
                (Script.columns (lastLine before))) = textWidth (lastLine (mark ++ before))) ∧
            (Script.columns (lastLine before) = (lastLine (mark ++ before)).length →
              context.PointsBehind (lastLine (mark ++ before))) := by
  constructor
  · intro tree htree context reason hissue
    have hsites : SourceKind.template.sites source = .ok _ := Template.sites_of_parse htree
    obtain ⟨call, hcall, hrefuses⟩ := (invalidCall_mem_extract_iff hsites).1 hissue
    obtain ⟨c, hc, rfl⟩ := List.mem_map.1 hcall
    obtain ⟨before, first, rest, hcaret⟩ := Template.pointsBehind_of_call htree hc hrefuses.2
    exact ⟨c, hc, before, first, rest, hrefuses, hcaret⟩
  · intro p hread context reason hissue
    have hsites : SourceKind.script.sites source = .ok _ := Script.sites_of_read hread
    obtain ⟨call, hcall, hrefuses⟩ := (invalidCall_mem_extract_iff hsites).1 hissue
    obtain ⟨c, hc, rfl⟩ := List.mem_map.1 hcall
    refine ⟨c, hc, hrefuses, fun mark before hfollows => ?_⟩
    obtain ⟨⟨behind, hline⟩, hcolumn⟩ := Script.exists_line_of_follows hfollows hrefuses.2
    exact ⟨behind, hline, Context.pointsBehind_iff_of_column hline hcolumn⟩

/-- A script that is a template as well, with a refused call in each of them. -/
def twofold : String := "/*\x7b\x7b _(y) \x7d\x7d*/gettext(y)"

/-- Both calls of `twofold` have their carets below them. -/
theorem twofold_carets :
    (∃ context, .invalidCall context .nonLiteral ∈ (extract .template "a" twofold).issues ∧
      context.PointsBehind "/*\x7b\x7b ".toList) ∧
    ∃ context, .invalidCall context .nonLiteral ∈ (extract .script "a" twofold).issues ∧
      context.PointsBehind "/*\x7b\x7b _(y) \x7d\x7d*/".toList := by
  obtain ⟨htemplates, hscripts⟩ := extract_carets "a" twofold
  constructor
  · obtain ⟨tree, htree, hstarts⟩ : ∃ tree, Template.parse twofold = .ok tree ∧
        tree.calls.map Template.Call.start = [5] := exists_ok_of_toOption_map (by decide +kernel)
    have hissue : .invalidCall ⟨"a", ⟨1, 6⟩, twofold⟩ .nonLiteral ∈
        (extract .template "a" twofold).issues := by decide +kernel
    obtain ⟨c, hc, before, first, rest, -, hsource, hstart, -, hpoints⟩ :=
      htemplates tree htree _ _ hissue
    have hoffset : c.start = 5 := by
      have hmem := List.mem_map_of_mem (f := Template.Call.start) hc
      rwa [hstarts, List.mem_singleton] at hmem
    have hbefore : before = "/*\x7b\x7b ".toList := by
      rw [← takeBytes_utf8Length before (first :: rest), ← hsource, ← hstart, hoffset]
      decide +kernel
    rw [hbefore] at hpoints
    exact ⟨_, hissue, hpoints⟩
  · obtain ⟨p, hread, hstarts⟩ : ∃ p, Script.read twofold = .ok p ∧
        p.calls.map Script.Call.start = [14] := exists_ok_of_toOption_map (by decide +kernel)
    have hissue : .invalidCall ⟨"a", ⟨1, 15⟩, twofold⟩ .nonLiteral ∈
        (extract .script "a" twofold).issues := by decide +kernel
    obtain ⟨c, hc, -, hpoints⟩ := hscripts p hread _ _ hissue
    have hstart : c.start = 14 := by
      have hmem := List.mem_map_of_mem (f := Script.Call.start) hc
      rwa [hstarts, List.mem_singleton] at hmem
    have hfollows : c.Follows twofold [] "/*\x7b\x7b _(y) \x7d\x7d*/".toList := by
      refine ⟨⟨'g', "ettext(y)".toList, by decide +kernel, by decide +kernel⟩, ?_, ?_⟩
      · rw [hstart]
        decide +kernel
      · intro above below heq
        have hnone : '\r' ∉ "/*\x7b\x7b _(y) \x7d\x7d*/".toList := by decide +kernel
        exact absurd (heq ▸ by simp) hnone
    obtain ⟨behind, -, -, hpoints⟩ := hpoints _ _ hfollows
    exact ⟨_, hissue, hpoints (by decide +kernel)⟩

/-- The script `gettext(x);` behind a tab. -/
def tabbed : String := "\tgettext(x);"

/-- The tab takes four columns in front of a call, but one in front of a caret. -/
theorem tabbed_caret :
    (∃ p, Script.read tabbed = .ok p ∧ p.calls.map Script.Call.start = [1]) ∧
    (extract .script "a.js" tabbed).issues =
      [.invalidCall ⟨"a.js", ⟨1, 5⟩, tabbed⟩ .nonLiteral] ∧
    ¬ Context.PointsBehind ⟨"a.js", ⟨1, 5⟩, tabbed⟩ ['\t'] := by
  refine ⟨exists_ok_of_toOption_map (by decide +kernel), by decide +kernel, ?_⟩
  rw [Context.pointsBehind_iff]
  decide +kernel

end PotCatalog
