/-
  The lines that are shown for places.

  The position of a byte offset is counted in newlines and characters, and its
  line is looked up among the lines of the source, which end in other ways: two
  signs may end a line, and a final newline starts none.  Nevertheless the line
  that is found is the one around the place (`lineAt_line_eq`), so that the
  characters before the column are those before the place.

  `lineAt_positionAt`: this for all sources and offsets, and for the refused
  calls of templates.
-/
import PotCatalog.Proofs.Carets
import PotCatalog.Proofs.Text.LineAt

namespace PotCatalog

variable {source : String} {before rest : List Char}

/-- **The line with the number of a place** is the line around the place. -/
theorem lineAt_line_eq (hsource : source.toList = before ++ rest) :
    lineAt source (Position.after before).line =
      if lastLine before ++ rest = [] then none
      else some (String.ofList (lineAround before rest)) := by
  rw [Position.after_eq, lineAt, textLines, List.getElem?_map, hsource, getElem?_lines]
  split_ifs <;> rfl

theorem StartsUpTo.positionAt_eq {offset : Nat}
    (h : StartsUpTo source.toList offset before rest) :
    positionAt source offset = Position.after before := by
  have hstart : takeBytes offset source.toList <+: before :=
    h.longest _ (takeBytes_starts _ _) (utf8Length_takeBytes_le _ _)
  have hbefore : before <+: takeBytes offset source.toList :=
    prefix_takeBytes (h.text_eq ▸ List.prefix_append before rest) h.fits
  rw [positionAt, Position.atOffset_eq, hstart.eq_of_length_le hbefore.length_le]

/-- No line is found only behind the last newline of a source. -/
theorem lineAt_line_eq_none_iff (hsource : source.toList = before ++ rest) :
    lineAt source (Position.after before).line = none ↔
      rest = [] ∧ (source = "" ∨ source.toList.getLast? = some '\n') := by
  have hnone : lineAt source (Position.after before).line = none ↔ lastLine before ++ rest = [] := by
    rw [lineAt_line_eq hsource]
    split_ifs with h <;> simp [h]
  rw [hnone, List.append_eq_nil_iff, lastLine_eq_nil_iff, and_comm]
  refine and_congr_right fun hrest => ?_
  rw [hsource, hrest, List.append_nil, ← String.toList_eq_nil_iff, hsource, hrest, List.append_nil]

namespace Template

/-- The line of a refused call is the line around the start of the call. -/
theorem lineAt_of_refused {tree : Tree} (h : parse source = .ok tree) {c : Call}
    (hc : c ∈ tree.calls) (file : String) :
    ∃ before rest, StartsUpTo source.toList c.start before rest ∧ utf8Length before = c.start ∧
      lineAt source (positionAt source c.start).line =
        some (Context.of file source (c.site source.toList).position).text ∧
      (Context.of file source (c.site source.toList).position).text.toList =
        lineAround before rest := by
  obtain ⟨before, first, rest, hsource, hstart, -⟩ :=
    pointsBehind_of_call h hc (Eq.refl (Context.of file source (c.site source.toList).position))
  have htakes : takeBytes c.start source.toList = before := by
    rw [hsource, hstart, takeBytes_utf8Length]
  have hstarts : StartsUpTo source.toList c.start before (first :: rest) := by
    have hdrop := startsUpTo_takeBytes c.start source.toList
    rwa [htakes, hsource, List.drop_left, ← hsource] at hdrop
  have hline : lineAt source (positionAt source c.start).line =
      some (String.ofList (lineAround before (first :: rest))) := by
    rw [hstarts.positionAt_eq, lineAt_line_eq hsource, if_neg (by simp)]
  have htext : (Context.of file source (c.site source.toList).position).text =
      String.ofList (lineAround before (first :: rest)) := by
    have hposition : (c.site source.toList).position = positionAt source c.start := rfl
    rw [Context.of, hposition, hline, Option.getD_some]
  refine ⟨before, first :: rest, hstarts, hstart.symm, ?_, ?_⟩
  · rw [hline, htext]
  · rw [htext, String.toList_ofList]

/-- Only a template that can be parsed has refused calls. -/
theorem exists_tree_of_invalidCall {file : String} {context : Context} {reason : Refusal}
    (h : .invalidCall context reason ∈ (extract .template file source).issues) :
    ∃ tree, parse source = .ok tree := by
  cases htree : parse source with
  | ok tree => exact ⟨tree, rfl⟩
  | error e =>
    have hcalls : calls source = .error (e.error source) := by
      unfold calls
      rw [htree]
    have hsites : SourceKind.template.sites source = .error (e.error source) := by
      show sites source = _
      unfold sites
      rw [hcalls]
    have hissues : (extract .template file source).issues =
        (Extraction.parseFailure file source (e.error source)).issues := by
      unfold extract
      rw [hsites]
    rw [hissues] at h
    cases List.mem_singleton.1 h

end Template

/-- **Excerpts show the line of the place.**  Let a source be cut at a byte offset.
    If there is a line with the number of the offset, it is the line around the
    place, and the characters before the column are those that stand before the
    place on it, less a carriage return if the place is behind that of the line's
    ending.  There is no such line exactly at the end of a source that is empty
    or ends in a newline.  So the line of a refused call in a template is the
    line around the start of the call. -/
theorem lineAt_positionAt (source : String) :
    (∀ offset, ∃ before rest, StartsUpTo source.toList offset before rest ∧
      (∀ line, lineAt source (positionAt source offset).line = some line →
        line.toList = lineAround before rest ∧
        line.toList.take ((positionAt source offset).column - 1) =
          if before.getLast? = some '\r' ∧ rest.head? = some '\n' then (lastLine before).dropLast
          else lastLine before) ∧
      (lineAt source (positionAt source offset).line = none ↔
        rest = [] ∧ (source = "" ∨ source.toList.getLast? = some '\n'))) ∧
    ∀ file context reason, .invalidCall context reason ∈ (extract .template file source).issues →
      ∃ tree, Template.parse source = .ok tree ∧ ∃ c ∈ tree.calls, ∃ before rest,
        StartsUpTo source.toList c.start before rest ∧ utf8Length before = c.start ∧
        context.position = positionAt source c.start ∧
        lineAt source context.position.line = some context.text ∧
        context.text.toList = lineAround before rest := by
  constructor
  · intro offset
    have hstarts := startsUpTo_takeBytes offset source.toList
    refine ⟨_, _, hstarts, fun line hline => ?_, ?_⟩
    · rw [hstarts.positionAt_eq] at hline ⊢
      rw [lineAt_line_eq hstarts.text_eq] at hline
      split_ifs at hline
      obtain rfl := Option.some.inj hline
      rw [String.toList_ofList, Position.after_eq, Nat.add_sub_cancel]
      refine ⟨rfl, ?_⟩
      split_ifs with hsplits
      · rw [lineAround_of_splits hsplits, List.take_of_length_le (by simp)]
      · exact take_lineAround hsplits
    · rw [hstarts.positionAt_eq]
      exact lineAt_line_eq_none_iff hstarts.text_eq
  · intro file context reason hissue
    obtain ⟨tree, htree⟩ := Template.exists_tree_of_invalidCall hissue
    have hsites : SourceKind.template.sites source = .ok _ := Template.sites_of_parse htree
    obtain ⟨call, hcall, -, rfl⟩ := (invalidCall_mem_extract_iff hsites).1 hissue
    obtain ⟨c, hc, rfl⟩ := List.mem_map.1 hcall
    obtain ⟨before, rest, hstarts, hlength, hline, htext⟩ := Template.lineAt_of_refused htree hc file
    exact ⟨tree, htree, c, hc, before, rest, hstarts, hlength, rfl, hline, htext⟩

/-- A template with line endings of two signs and a refused call. -/
def twoSigns : String := "é\r\n\x7b\x7b _(x) \x7d\x7d\r\n"

/-- The lines of a place in the middle of a line ending, and of the call. -/
theorem twoSigns_lineAt :
    (∃ before rest, StartsUpTo twoSigns.toList 3 before rest ∧
      lineAt twoSigns (positionAt twoSigns 3).line = some "é" ∧
      "é".toList = lineAround before rest) ∧
    ∃ context, .invalidCall context .nonLiteral ∈ (extract .template "a.html" twoSigns).issues ∧
      lineAt twoSigns context.position.line = some context.text ∧
      ∃ before rest, context.text.toList = lineAround before rest := by
  obtain ⟨hoffsets, hcalls⟩ := lineAt_positionAt twoSigns
  constructor
  · obtain ⟨before, rest, hstarts, hline, -⟩ := hoffsets 3
    have hfound : lineAt twoSigns (positionAt twoSigns 3).line = some "é" := by decide +kernel
    exact ⟨before, rest, hstarts, hfound, (hline "é" hfound).1⟩
  · have hissue : .invalidCall ⟨"a.html", ⟨2, 4⟩, "\x7b\x7b _(x) \x7d\x7d"⟩ .nonLiteral ∈
        (extract .template "a.html" twoSigns).issues := by decide +kernel
    obtain ⟨-, -, -, -, before, rest, -, -, -, hline, htext⟩ := hcalls _ _ _ hissue
    exact ⟨_, hissue, hline, before, rest, htext⟩

end PotCatalog
