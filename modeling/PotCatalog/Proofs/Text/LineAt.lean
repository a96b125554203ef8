/-
  The line of a place.

  `lineAround` is the line that a place between two texts is on, without its
  line ending: what stands before the place on it, and what stands behind the
  place up to the next newline.  Looking up a line by the number that the place
  has finds this line, unless the text ends at the place and the last line is
  empty (`getElem?_lines`).

  A byte offset stands for the place behind the longest start of the text that
  takes no more bytes (`StartsUpTo`).
-/
import PotCatalog.Proofs.Text.LastLine

namespace PotCatalog

/-- A line without the carriage return at its end. -/
def withoutReturn (line : List Char) : List Char :=
  if line.getLast? = some '\r' then line.dropLast else line

/-- The line of the place between two texts, without its line ending. -/
def lineAround (before rest : List Char) : List Char :=
  if '\n' ∈ rest then withoutReturn (lastLine before ++ rest.takeWhile (· != '\n'))
  else lastLine before ++ rest

theorem withoutReturn_cons {c : Char} {line : List Char} (h : line = [] → c ≠ '\r') :
    withoutReturn (c :: line) = c :: withoutReturn line := by
  cases line with
  | nil => simp [withoutReturn, h rfl]
  | cons d line =>
    rw [withoutReturn, withoutReturn, List.getLast?_cons_cons, List.dropLast_cons_cons]
    split_ifs <;> rfl

/-! ## Moving the place -/

theorem lineAround_cons_newline (before rest : List Char) :
    lineAround ('\n' :: before) rest = lineAround before rest := by
  rw [lineAround, lineAround, lastLine_cons_newline]

theorem lineAround_cons_of_mem (c : Char) {before : List Char} (rest : List Char)
    (h : '\n' ∈ before) : lineAround (c :: before) rest = lineAround before rest := by
  rw [lineAround, lineAround, lastLine_cons_of_mem c h]

/-- A character before the place on its line belongs to the line. -/
theorem lineAround_cons {c : Char} {before rest : List Char} (hc : c ≠ '\n') (h : '\n' ∉ before)
    (hreturn : ¬ (c = '\r' ∧ (before ++ rest).head? = some '\n')) :
    lineAround (c :: before) rest = c :: lineAround before rest := by
  have hline : lastLine (c :: before) = c :: lastLine before := by
    rw [lastLine_of_notMem h, lastLine_of_notMem (by simp [Ne.symm hc, h])]
  rw [lineAround, lineAround, hline]
  split_ifs with hrest
  · refine withoutReturn_cons fun hnil => ?_
    rw [lastLine_of_notMem h] at hnil
    obtain ⟨rfl, hnone⟩ := List.append_eq_nil_iff.1 hnil
    -- nothing stands between the character and the newline
    rintro rfl
    refine hreturn ⟨rfl, ?_⟩
    cases rest with
    | nil => cases hrest
    | cons d rest => simpa [List.takeWhile_cons] using hnone
  · rfl

/-- The place can be moved over a character of its line. -/
theorem lineAround_move {c : Char} (rest : List Char) (hc : c ≠ '\n') :
    lineAround [] (c :: rest) = lineAround [c] rest := by
  have hline : lastLine [c] = [c] := lastLine_of_notMem (by simpa using Ne.symm hc)
  have hempty : lastLine [] = [] := rfl
  rw [lineAround, lineAround, hline, hempty]
  simp [Ne.symm hc, hc]

/-- An empty line. -/
theorem lineAround_newline (text : List Char) : lineAround [] ('\n' :: text) = [] := by
  simp [lineAround, lastLine, withoutReturn]

/-- An empty line, from a place between the two signs of its ending. -/
theorem lineAround_ending (text : List Char) : lineAround ['\r'] ('\n' :: text) = [] := by
  have hline : lastLine ['\r'] = ['\r'] := rfl
  simp [lineAround, hline, withoutReturn]

/-! ## Lines by their numbers -/

theorem head?_lines (text : List Char) :
    (lines text).head? = if text = [] then none else some (lineAround [] text) := by
  induction text with
  | nil => rfl
  | cons c text ih =>
    rw [if_neg (List.cons_ne_nil c text)]
    by_cases hc : c = '\n'
    · rw [hc, lines_newline, lineAround_newline, List.head?_cons]
    · rw [lineAround_move text hc]
      by_cases hreturn : c = '\r' ∧ text.head? = some '\n'
      · obtain ⟨rfl, hhead⟩ := hreturn
        obtain ⟨rest, rfl⟩ := List.head?_eq_some_iff.1 hhead
        rw [lines_return, lines_newline, lineAround_ending, List.head?_cons]
      · rw [lines_cons hc hreturn, List.head?_cons, ih,
          lineAround_cons hc List.not_mem_nil (by simpa using hreturn)]
        split_ifs with hnil
        · rw [hnil]
          rfl
        · rfl

/-- **The line of a place** has the number of the newlines before it. -/
theorem getElem?_lines (before rest : List Char) :
    (lines (before ++ rest))[before.count '\n']? =
      if lastLine before ++ rest = [] then none else some (lineAround before rest) := by
  induction before with
  | nil =>
    rw [List.nil_append, List.count_nil, ← List.head?_eq_getElem?, head?_lines]
    rfl
  | cons c before ih =>
    by_cases hc : c = '\n'
    · rw [hc, List.cons_append, lines_newline, List.count_cons_self, List.getElem?_cons_succ, ih,
        lastLine_cons_newline, lineAround_cons_newline]
    · rw [List.count_cons_of_ne hc, List.cons_append]
      by_cases hreturn : c = '\r' ∧ (before ++ rest).head? = some '\n'
      · obtain ⟨rfl, hhead⟩ := hreturn
        obtain ⟨text, htext⟩ := List.head?_eq_some_iff.1 hhead
        rw [htext, lines_return, ← htext, ih]
        cases before with
        | nil =>
          -- the place is between the two signs of a line ending
          obtain rfl : rest = '\n' :: text := htext
          rw [lineAround_newline, lineAround_ending]
          simp
        | cons d before =>
          obtain rfl : d = '\n' := (List.cons.inj htext).1
          rw [lastLine_cons_of_mem _ List.mem_cons_self, lineAround_cons_of_mem _ _ List.mem_cons_self]
      · rw [lines_cons hc hreturn]
        by_cases hmem : '\n' ∈ before
        · obtain ⟨n, hn⟩ := Nat.exists_eq_succ_of_ne_zero (List.count_pos_iff.2 hmem).ne'
          rw [hn] at ih ⊢
          rw [List.getElem?_cons_succ, List.getElem?_tail, ih, lastLine_cons_of_mem c hmem,
            lineAround_cons_of_mem c rest hmem]
        · rw [List.count_eq_zero_of_not_mem hmem, lastLine_of_notMem hmem] at ih
          rw [List.count_eq_zero_of_not_mem hmem, List.getElem?_cons_zero, List.head?_eq_getElem?, ih,
            lineAround_cons hc hmem hreturn, lastLine_of_notMem (by simp [Ne.symm hc, hmem]),
            List.cons_append, if_neg (List.cons_ne_nil _ _)]
          split_ifs with hnil
          · obtain ⟨rfl, rfl⟩ := List.append_eq_nil_iff.1 hnil
            rfl
          · rfl

/-! ## What stands before the place -/

theorem getLast?_lastLine_iff {text : List Char} {c : Char} (hc : c ≠ '\n') :
    (lastLine text).getLast? = some c ↔ text.getLast? = some c := by
  rcases List.eq_nil_or_concat text with rfl | ⟨front, d, rfl⟩
  · rfl
  · rw [List.concat_eq_append, lastLine_concat, List.getLast?_concat]
    split_ifs with hd
    · simp [hd, Ne.symm hc]
    · rw [List.getLast?_concat]

theorem lastLine_eq_nil_iff {text : List Char} :
    lastLine text = [] ↔ text = [] ∨ text.getLast? = some '\n' := by
  rcases List.eq_nil_or_concat text with rfl | ⟨front, d, rfl⟩
  · exact iff_of_true rfl (Or.inl rfl)
  · rw [List.concat_eq_append, lastLine_concat, List.getLast?_concat]
    split_ifs with hd <;> simp [hd]

theorem withoutReturn_append (front : List Char) {line : List Char} (h : line ≠ []) :
    withoutReturn (front ++ line) = front ++ withoutReturn line := by
  rw [withoutReturn, withoutReturn, List.getLast?_append_of_ne_nil front h,
    List.dropLast_append_of_ne_nil h]
  split_ifs <;> rfl

/-- The line of a place starts with what stands before the place on it. -/
theorem take_lineAround {before rest : List Char} (h : ¬ SplitsEnding before rest) :
    (lineAround before rest).take (lastLine before).length = lastLine before := by
  rw [lineAround]
  split_ifs with hrest
  · by_cases hempty : rest.takeWhile (· != '\n') = []
    · have hhead : rest.head? = some '\n' := by
        cases rest with
        | nil => cases hrest
        | cons c rest => simpa [List.takeWhile_cons] using hempty
      have hreturn : (lastLine before).getLast? ≠ some '\r' := by
        rw [Ne, getLast?_lastLine_iff (by decide)]
        exact fun hlast => h ⟨hlast, hhead⟩
      rw [hempty, List.append_nil, withoutReturn, if_neg hreturn, List.take_length]
    · rw [withoutReturn_append _ hempty, List.take_left]
  · exact List.take_left

/-- Behind the carriage return of its ending, a line has nothing more. -/
theorem lineAround_of_splits {before rest : List Char} (h : SplitsEnding before rest) :
    lineAround before rest = (lastLine before).dropLast := by
  obtain ⟨hreturn, hnewline⟩ := h
  obtain ⟨below, rfl⟩ := List.head?_eq_some_iff.1 hnewline
  rw [← getLast?_lastLine_iff (by decide)] at hreturn
  simp [lineAround, withoutReturn, hreturn]

/-! ## Offsets -/

/-- A start of a text reaches up to a byte offset: it is the longest one that
    takes no more bytes. -/
structure StartsUpTo (text : List Char) (offset : Nat) (before rest : List Char) : Prop where
  text_eq : text = before ++ rest
  fits : utf8Length before ≤ offset
  longest : ∀ longer, longer <+: text → utf8Length longer ≤ offset → longer <+: before

theorem utf8Length_takeBytes_le (n : Nat) (text : List Char) :
    utf8Length (takeBytes n text) ≤ n := by
  induction text generalizing n with
  | nil => exact Nat.zero_le n
  | cons c text ih =>
    rw [takeBytes]
    split_ifs with hc
    · have hrest := ih (n - c.utf8Size)
      rw [utf8Length]
      omega
    · exact Nat.zero_le n

theorem takeBytes_starts (n : Nat) (text : List Char) : takeBytes n text <+: text := by
  induction text generalizing n with
  | nil => exact List.prefix_rfl
  | cons c text ih =>
    rw [takeBytes]
    split_ifs
    · exact (List.prefix_cons_inj c).2 (ih _)
    · exact List.nil_prefix

theorem prefix_takeBytes {n : Nat} {text longer : List Char} (h : longer <+: text)
    (hfits : utf8Length longer ≤ n) : longer <+: takeBytes n text := by
  induction longer generalizing n text with
  | nil => exact List.nil_prefix
  | cons c longer ih =>
    obtain ⟨rest, rfl⟩ := h
    rw [utf8Length] at hfits
    rw [List.cons_append, takeBytes, if_pos (by omega)]
    exact (List.prefix_cons_inj c).2 (ih (List.prefix_append longer rest) (by omega))

theorem startsUpTo_takeBytes (n : Nat) (text : List Char) :
    StartsUpTo text n (takeBytes n text) (text.drop (takeBytes n text).length) where
  text_eq := (List.prefix_iff_eq_append.1 (takeBytes_starts n text)).symm
  fits := utf8Length_takeBytes_le n text
  longest _ h hfits := prefix_takeBytes h hfits

end PotCatalog
