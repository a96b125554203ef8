/-
  The gutter of reports.

  The bars of excerpts and the signs of notes are marks in the gutter of a
  report.  A report is made of blocks, each of which starts and ends at the start
  of a line and has its marks behind a margin of the same width (`IsBlock`).
-/
import Mathlib.Algebra.GroupWithZero.Nat
import PotCatalog.Proofs.Text.LineAt
import PotCatalog.Proofs.Text.Styling
import PotCatalog.Report

namespace PotCatalog

/-! ## Marks -/

/-- A mark in the gutter: the bar of an excerpt or the sign of a note. -/
def Piece.IsMark (piece : Piece) : Prop :=
  piece = styled [.blue] "|" ∨ piece = styled [.blue] "="

instance (piece : Piece) : Decidable piece.IsMark := inferInstanceAs (Decidable (_ ∨ _))

/-- A margin, which holds blanks and the digits of a number, with a blank behind it. -/
def IsMargin (width : Nat) (line : List Char) : Prop :=
  ∃ margin, line = margin ++ [' '] ∧ margin.length = width ∧
    ∀ c ∈ margin, c = ' ' ∨ c.isDigit = true

theorem IsMargin.newline_notMem {width : Nat} {line : List Char} (h : IsMargin width line) :
    '\n' ∉ line := by
  obtain ⟨margin, rfl, -, hmargin⟩ := h
  intro hmem
  rcases List.mem_append.1 hmem with hmem | hmem
  · exact absurd (hmargin _ hmem) (by decide)
  · exact absurd hmem (by decide)

/-- The marks of a text stand behind the margin, if the text is written behind
    another one. -/
def Aligned (width : Nat) (above : List Char) : StyledText → Prop
  | [] => True
  | piece :: text =>
    (piece.IsMark → IsMargin width (lastLine above)) ∧
      Aligned width (above ++ piece.text.toList) text

section
variable {width : Nat} {above above' : List Char} {xs ys text : StyledText}

theorem aligned_append :
    Aligned width above (xs ++ ys) ↔
      Aligned width above xs ∧ Aligned width (above ++ (xs.render false).toList) ys := by
  induction xs generalizing above with
  | nil => simp [Aligned, StyledText.render]
  | cons piece xs ih =>
    rw [List.cons_append, Aligned, Aligned, ih, StyledText.toList_render_cons, Piece.render_false,
      List.append_assoc, and_assoc]

/-- Only the line that is written in front of a text matters. -/
theorem aligned_congr (h : lastLine above = lastLine above') (htext : Aligned width above text) :
    Aligned width above' text := by
  induction text generalizing above above' with
  | nil => trivial
  | cons piece text ih =>
    refine ⟨fun hmark => h ▸ htext.1 hmark, ih ?_ htext.2⟩
    rw [lastLine_append, lastLine_append, h]

theorem aligned_of_forall_not (h : ∀ piece ∈ text, ¬ piece.IsMark) :
    Aligned width above text := by
  induction text generalizing above with
  | nil => trivial
  | cons piece text ih =>
    rw [List.forall_mem_cons] at h
    exact ⟨fun hmark => absurd hmark h.1, ih h.2⟩

theorem Aligned.isMargin {mark : Piece} (h : Aligned width [] (xs ++ mark :: ys))
    (hmark : mark.IsMark) : IsMargin width (lastLine (xs.render false).toList) :=
  (aligned_append.1 h).2.1 hmark

end

/-! ## Blocks -/

theorem getLast?_newline (text : String) : (text ++ "\n").toList.getLast? = some '\n' := by
  rw [String.toList_append]
  exact List.getLast?_concat

theorem getLast?_render_concat (front : StyledText) {piece : Piece}
    (h : piece.text.toList.getLast? = some '\n') :
    (StyledText.render false (front ++ [piece])).toList.getLast? = some '\n' := by
  have hpiece : (StyledText.render false [piece]).toList = piece.text.toList := by
    simp [StyledText.render, Piece.render]
  rw [StyledText.toList_render_append, hpiece, List.getLast?_append, h, Option.some_or]

/-- A text of full lines with a number of marks, all of them behind the margin. -/
structure IsBlock (width marks : Nat) (text : StyledText) : Prop where
  aligned : Aligned width [] text
  ends : lastLine (text.render false).toList = []
  count : text.countP (·.IsMark) = marks

theorem lastLine_append_of_ends {above text : List Char} (habove : lastLine above = [])
    (htext : lastLine text = []) : lastLine (above ++ text) = [] := by
  rw [lastLine_append]
  split_ifs with hmem
  · exact htext
  · rw [habove, List.nil_append, ← lastLine_of_notMem hmem, htext]

namespace IsBlock

variable {width m n : Nat} {xs ys text : StyledText}

theorem nil : IsBlock width 0 [] := ⟨trivial, rfl, rfl⟩

theorem append (hx : IsBlock width m xs) (hy : IsBlock width n ys) :
    IsBlock width (m + n) (xs ++ ys) where
  aligned := by
    refine aligned_append.2 ⟨hx.aligned, aligned_congr ?_ hy.aligned⟩
    rw [List.nil_append, hx.ends]
    rfl
  ends := by
    rw [StyledText.toList_render_append]
    exact lastLine_append_of_ends hx.ends hy.ends
  count := by rw [List.countP_append, hx.count, hy.count]

theorem flatMap {α : Type} {f : α → StyledText} {marks : α → Nat} {l : List α}
    (h : ∀ a ∈ l, IsBlock width (marks a) (f a)) :
    IsBlock width (l.map marks).sum (l.flatMap f) := by
  induction l with
  | nil => exact nil
  | cons a l ih =>
    rw [List.forall_mem_cons] at h
    rw [List.flatMap_cons, List.map_cons, List.sum_cons]
    exact h.1.append (ih h.2)

/-- Lines without marks. -/
theorem of_forall_not (h : ∀ piece ∈ text, ¬ piece.IsMark)
    (hnewline : (text.render false).toList.getLast? = some '\n') : IsBlock width 0 text where
  aligned := aligned_of_forall_not h
  ends := lastLine_eq_nil_iff.2 (Or.inr hnewline)
  count := List.countP_eq_zero.2 fun piece hpiece => by simpa using h piece hpiece

/-- A line with a mark behind its margin. -/
theorem line {front behind : StyledText} {mark : Piece}
    (hfront : ∀ piece ∈ front, ¬ piece.IsMark)
    (hmargin : IsMargin width (front.render false).toList) (hmark : mark.IsMark)
    (hbehind : ∀ piece ∈ behind, ¬ piece.IsMark)
    (hnewline : (behind.render false).toList.getLast? = some '\n') :
    IsBlock width 1 (front ++ mark :: behind) where
  aligned := by
    refine aligned_append.2 ⟨aligned_of_forall_not hfront, fun _ => ?_, aligned_of_forall_not hbehind⟩
    rwa [List.nil_append, lastLine_of_notMem hmargin.newline_notMem]
  ends := by
    rw [StyledText.toList_render_append, StyledText.toList_render_cons, ← List.append_assoc,
      lastLine_append, if_pos (List.mem_of_getLast? hnewline)]
    exact lastLine_eq_nil_iff.2 (Or.inr hnewline)
  count := by
    have hzero {text : StyledText} (h : ∀ piece ∈ text, ¬ piece.IsMark) :
        text.countP (·.IsMark) = 0 := List.countP_eq_zero.2 (by simpa using h)
    rw [List.countP_append, List.countP_cons, hzero hfront, hzero hbehind,
      if_pos (decide_eq_true hmark)]

end IsBlock

/-! ## Margins -/

theorem length_toString (n : Nat) : (toString n).length = (Nat.toDigits 10 n).length := by
  rw [Nat.toString_eq_ofList_toDigits, String.length_ofList]

theorem length_toDigits_le {m n : Nat} (h : m ≤ n) :
    (Nat.toDigits 10 m).length ≤ (Nat.toDigits 10 n).length := by
  have hn := (Nat.length_toDigits_le_iff (by decide) Nat.length_toDigits_pos).1
    (Nat.le_refl (Nat.toDigits 10 n).length)
  exact (Nat.length_toDigits_le_iff (by decide) Nat.length_toDigits_pos).2 (Nat.lt_of_le_of_lt h hn)

theorem isMargin_blanks (width : Nat) : IsMargin width (blanks width ++ " ").toList :=
  ⟨List.replicate width ' ', by simp [blanks], List.length_replicate,
    fun _ hc => Or.inl (List.eq_of_mem_replicate hc)⟩

theorem isMargin_start (width : Nat) :
    IsMargin width (StyledText.render false [plain (blanks width ++ " ")]).toList := by
  simpa [StyledText.render, Piece.render_false, plain] using isMargin_blanks width

theorem mem_padLeft_toString {width n : Nat} {c : Char}
    (h : c ∈ (padLeft width (toString n)).toList) : c = ' ' ∨ c.isDigit = true := by
  simp only [padLeft, blanks, String.toList_append, String.toList_ofList, List.mem_append,
    Nat.toString_eq_ofList_toDigits] at h
  rcases h with h | h
  · exact Or.inl (List.eq_of_mem_replicate h)
  · exact Or.inr (Nat.isDigit_of_mem_toDigits (by decide) (by decide) h)

theorem isMargin_padLeft {width n : Nat} (h : (toString n).length ≤ width) :
    IsMargin width ((padLeft width (toString n)).toList ++ [' ']) := by
  refine ⟨(padLeft width (toString n)).toList, rfl, ?_, fun c hc => mem_padLeft_toString hc⟩
  rw [String.length_toList, padLeft, String.length_append, blanks, String.length_ofList,
    List.length_replicate]
  omega

/-- Marks are neither blanks nor digits. -/
theorem Piece.IsMark.exists_mem {piece : Piece} (h : piece.IsMark) :
    ∃ c ∈ piece.text.toList, ¬ (c = ' ' ∨ c.isDigit = true) := by
  rcases h with rfl | rfl
  · exact ⟨'|', by decide, by decide⟩
  · exact ⟨'=', by decide, by decide⟩

theorem not_isMark_number (width n : Nat) :
    ¬ (styled [.blue] (padLeft width (toString n))).IsMark := by
  intro h
  obtain ⟨c, hmem, hc⟩ := h.exists_mem
  exact hc (mem_padLeft_toString hmem)

end PotCatalog
