/-
  Lines and columns as names of places.

  The position of a byte offset can be found step by step: go back from the
  offset to a boundary between two characters, cut the source there, and count
  the newlines before the place and the characters behind the last of them
  (`slicedPosition?`).  Any of these steps fails where it would leave the text or
  cut a character, but none ever does.

  A position leads back to its place: to the start of the segment between
  newlines that has its line as a number, and over as many characters as there
  are columns before it (`Position.offsetIn?`).

  `positionAt_faithful`: positions stand for boundaries, one for each, and are
  in the order of these.
-/
import Mathlib.Algebra.GroupWithZero.Nat
import Mathlib.Data.Prod.Lex
import Mathlib.Data.Set.Function
import Mathlib.Order.Bounds.Basic
import PotCatalog.Proofs.Text.LineAt

namespace PotCatalog

/-! ## Cutting a text -/

/-- The parts of a text before and behind a byte offset; none if the offset is
    inside a character or behind the end. -/
def cutAtByte? : List Char → Nat → Option (List Char × List Char)
  | text, 0 => some ([], text)
  | [], _ + 1 => none
  | c :: text, n + 1 =>
    if c.utf8Size ≤ n + 1 then
      (cutAtByte? text (n + 1 - c.utf8Size)).map fun (before, rest) => (c :: before, rest)
    else none

theorem utf8Length_eq_zero_iff {text : List Char} : utf8Length text = 0 ↔ text = [] := by
  cases text with
  | nil => simp [utf8Length]
  | cons c text => simp [utf8Length, (Char.utf8Size_pos c).ne']

/-- What is cut off in front of a text takes its first character. -/
theorem exists_cons_of_utf8Length {c : Char} {text before rest : List Char} {n : Nat}
    (htext : c :: text = before ++ rest) (hlength : utf8Length before = n + 1) :
    ∃ inner, before = c :: inner ∧ text = inner ++ rest ∧
      c.utf8Size + utf8Length inner = n + 1 := by
  cases before with
  | nil => cases hlength
  | cons d inner =>
    obtain ⟨rfl, rfl⟩ := List.cons.inj htext
    exact ⟨inner, rfl, rfl, hlength⟩

theorem cutAtByte?_eq_some_iff {text before rest : List Char} {n : Nat} :
    cutAtByte? text n = some (before, rest) ↔ text = before ++ rest ∧ utf8Length before = n := by
  fun_induction cutAtByte? text n generalizing before with
  | case1 text =>
    rw [utf8Length_eq_zero_iff]
    constructor
    · rintro ⟨⟩
      exact ⟨rfl, rfl⟩
    · rintro ⟨rfl, rfl⟩
      rfl
  | case2 n =>
    refine iff_of_false (by simp) ?_
    rintro ⟨hnil, hlength⟩
    rw [(List.append_eq_nil_iff.1 hnil.symm).1] at hlength
    cases hlength
  | case3 c text n hc ih =>
    rw [Option.map_eq_some_iff]
    constructor
    · rintro ⟨⟨inner, rest⟩, hinner, heq⟩
      obtain ⟨rfl, rfl⟩ := Prod.mk.inj heq
      obtain ⟨rfl, hlength⟩ := ih.1 hinner
      exact ⟨rfl, by rw [utf8Length]; omega⟩
    · rintro ⟨htext, hlength⟩
      obtain ⟨inner, rfl, rfl, hinner⟩ := exists_cons_of_utf8Length htext hlength
      exact ⟨(inner, rest), ih.2 ⟨rfl, by omega⟩, rfl⟩
  | case4 c text n hc =>
    refine iff_of_false (by simp) ?_
    rintro ⟨htext, hlength⟩
    obtain ⟨inner, -, -, hinner⟩ := exists_cons_of_utf8Length htext hlength
    omega

/-! ## Boundaries -/

/-- Goes back from a byte offset, byte by byte, to the first one at which the text
    can be cut; none if that would lead before the start. -/
def boundaryBelow? (text : List Char) : Nat → Option Nat
  | 0 => if (cutAtByte? text 0).isSome then some 0 else none
  | n + 1 => if (cutAtByte? text (n + 1)).isSome then some (n + 1) else boundaryBelow? text n

theorem isSome_cutAtByte?_iff {text : List Char} {n : Nat} :
    (cutAtByte? text n).isSome ↔ ∃ before, before <+: text ∧ utf8Length before = n := by
  rw [Option.isSome_iff_exists]
  constructor
  · rintro ⟨⟨before, rest⟩, hcut⟩
    obtain ⟨rfl, hlength⟩ := cutAtByte?_eq_some_iff.1 hcut
    exact ⟨before, List.prefix_append before rest, hlength⟩
  · rintro ⟨before, ⟨rest, rfl⟩, hlength⟩
    exact ⟨(before, rest), cutAtByte?_eq_some_iff.2 ⟨rfl, hlength⟩⟩

theorem utf8Length_le_of_prefix {before text : List Char} (h : before <+: text) :
    utf8Length before ≤ utf8Length text := by
  obtain ⟨rest, rfl⟩ := h
  rw [utf8Length_append]
  exact Nat.le_add_right _ _

/-- The longest start up to a byte offset is the same for all offsets between its
    end and that one. -/
theorem takeBytes_eq_of_le {text : List Char} {m n : Nat} (hle : m ≤ n)
    (hfits : utf8Length (takeBytes n text) ≤ m) : takeBytes m text = takeBytes n text := by
  have hm : takeBytes m text <+: takeBytes n text :=
    prefix_takeBytes (takeBytes_starts m text) ((utf8Length_takeBytes_le m text).trans hle)
  have hn : takeBytes n text <+: takeBytes m text := prefix_takeBytes (takeBytes_starts n text) hfits
  exact hm.eq_of_length_le hn.length_le

/-- **Going back** ends where the longest start up to the offset does. -/
theorem boundaryBelow?_eq (text : List Char) (n : Nat) :
    boundaryBelow? text n = some (utf8Length (takeBytes n text)) := by
  induction n with
  | zero =>
    have hcut : (cutAtByte? text 0).isSome := by simp [cutAtByte?]
    rw [boundaryBelow?, if_pos hcut, Nat.le_zero.1 (utf8Length_takeBytes_le 0 text)]
  | succ n ih =>
    rw [boundaryBelow?]
    split_ifs with hcut
    · obtain ⟨before, ⟨rest, rfl⟩, hlength⟩ := isSome_cutAtByte?_iff.1 hcut
      rw [← hlength, takeBytes_utf8Length]
    · have hne : utf8Length (takeBytes (n + 1) text) ≠ n + 1 := fun hlength =>
        hcut (isSome_cutAtByte?_iff.2 ⟨_, takeBytes_starts _ _, hlength⟩)
      have hfits : utf8Length (takeBytes (n + 1) text) ≤ n := by
        have hle := utf8Length_takeBytes_le (n + 1) text
        omega
      rw [ih, takeBytes_eq_of_le (Nat.le_succ n) hfits]

/-- An offset behind the end counts as the end. -/
theorem takeBytes_min (n : Nat) (text : List Char) :
    takeBytes (min n (utf8Length text)) text = takeBytes n text :=
  takeBytes_eq_of_le (Nat.min_le_left _ _)
    (Nat.le_min.2 ⟨utf8Length_takeBytes_le n text, utf8Length_le_of_prefix (takeBytes_starts n text)⟩)

theorem utf8ByteSize_eq (source : String) : source.utf8ByteSize = utf8Length source.toList := by
  obtain ⟨text, rfl⟩ : ∃ text, source = String.ofList text := ⟨_, String.ofList_toList.symm⟩
  rw [String.toList_ofList]
  induction text with
  | nil => rfl
  | cons c text ih =>
    rw [String.ofList_cons, String.utf8ByteSize_append, String.utf8ByteSize_singleton, ih, utf8Length]

/-- The boundaries between the characters of a source are where its starts end. -/
theorem isValid_iff_exists_starts {source : String} {n : Nat} :
    String.Pos.Raw.IsValid source ⟨n⟩ ↔
      ∃ before, before <+: source.toList ∧ utf8Length before = n := by
  rw [String.Pos.Raw.isValid_iff_exists_append]
  constructor
  · rintro ⟨before, rest, rfl, hn⟩
    refine ⟨before.toList, ?_, ?_⟩
    · rw [String.toList_append]
      exact List.prefix_append _ _
    · rw [← utf8ByteSize_eq, ← String.byteIdx_rawEndPos, ← hn]
  · rintro ⟨before, ⟨rest, htext⟩, hlength⟩
    refine ⟨String.ofList before, String.ofList rest, ?_, ?_⟩
    · rw [← String.ofList_append, htext, String.ofList_toList]
    · rw [String.Pos.Raw.ext_iff, String.byteIdx_rawEndPos, utf8ByteSize_eq, String.toList_ofList,
        hlength]

/-! ## Finding a position -/

/-- The byte offset of the last newline of a text. -/
def lastNewline? : List Char → Option Nat
  | [] => none
  | c :: text =>
    match lastNewline? text with
    | some n => some (c.utf8Size + n)
    | none => if c = '\n' then some 0 else none

/-- Finds the position of a byte offset step by step.  A step fails if it would
    leave the text or cut a character. -/
def slicedPosition? (source : String) (offset : Nat) : Option Position := do
  let stop ← boundaryBelow? source.toList (min offset source.utf8ByteSize)
  let (before, _) ← cutAtByte? source.toList stop
  let (_, line) ← cutAtByte? before ((lastNewline? before).elim 0 (· + 1))
  return ⟨before.count '\n' + 1, line.length + 1⟩

theorem lastNewline?_of_notMem {text : List Char} (h : '\n' ∉ text) : lastNewline? text = none := by
  induction text with
  | nil => rfl
  | cons c text ih =>
    obtain ⟨hc, htext⟩ : '\n' ≠ c ∧ '\n' ∉ text := by simpa using h
    rw [lastNewline?, ih htext]
    exact if_neg (Ne.symm hc)

theorem lastNewline?_append {above line : List Char} (h : '\n' ∉ line) :
    lastNewline? (above ++ '\n' :: line) = some (utf8Length above) := by
  induction above with
  | nil => simp [lastNewline?, lastNewline?_of_notMem h, utf8Length]
  | cons c above ih => simp [lastNewline?, ih, utf8Length]

/-- The last line of a text stands behind its last newline. -/
theorem exists_eq_append_lastLine {text : List Char} (h : '\n' ∈ text) :
    ∃ above, text = above ++ '\n' :: lastLine text ∧ '\n' ∉ lastLine text := by
  induction text with
  | nil => cases h
  | cons c text ih =>
    by_cases hmem : '\n' ∈ text
    · obtain ⟨above, htext, hline⟩ := ih hmem
      rw [lastLine_cons_of_mem c hmem]
      exact ⟨c :: above, by rw [List.cons_append, ← htext], hline⟩
    · obtain rfl : c = '\n' := by simpa [hmem, eq_comm] using h
      rw [lastLine_cons_newline, lastLine_of_notMem hmem]
      exact ⟨[], rfl, hmem⟩

/-- What stands in front of the last line of a text ends where that line starts. -/
theorem exists_above_lastLine (text : List Char) :
    ∃ above, text = above ++ lastLine text ∧
      utf8Length above = (lastNewline? text).elim 0 (· + 1) := by
  by_cases hmem : '\n' ∈ text
  · obtain ⟨above, htext, hline⟩ := exists_eq_append_lastLine hmem
    have hlast : lastNewline? text = some (utf8Length above) := by
      rw [htext]
      exact lastNewline?_append hline
    refine ⟨above ++ ['\n'], by rw [List.append_assoc]; exact htext, ?_⟩
    rw [hlast, utf8Length_append]
    rfl
  · refine ⟨[], (lastLine_of_notMem hmem).symm, ?_⟩
    rw [lastNewline?_of_notMem hmem]
    rfl

/-- **No step fails**, and together they find the position. -/
theorem slicedPosition?_eq (source : String) (offset : Nat) :
    slicedPosition? source offset = some (positionAt source offset) := by
  obtain ⟨rest, hrest⟩ := takeBytes_starts offset source.toList
  obtain ⟨above, habove, hlength⟩ := exists_above_lastLine (takeBytes offset source.toList)
  have hstop : boundaryBelow? source.toList (min offset source.utf8ByteSize) =
      some (utf8Length (takeBytes offset source.toList)) := by
    rw [boundaryBelow?_eq, utf8ByteSize_eq, takeBytes_min]
  have hcut : cutAtByte? source.toList (utf8Length (takeBytes offset source.toList)) =
      some (takeBytes offset source.toList, rest) := cutAtByte?_eq_some_iff.2 ⟨hrest.symm, rfl⟩
  have hline : cutAtByte? (takeBytes offset source.toList)
      ((lastNewline? (takeBytes offset source.toList)).elim 0 (· + 1)) =
      some (above, lastLine (takeBytes offset source.toList)) :=
    cutAtByte?_eq_some_iff.2 ⟨habove, hlength⟩
  simp only [slicedPosition?, hstop, hcut, hline, Option.bind_eq_bind, Option.bind_some]
  rw [positionAt, Position.atOffset_eq, Position.after_eq]
  rfl

/-! ## Going to a position -/

/-- The byte offset at which one of the segments between newlines starts. -/
def segmentStart (segments : List (List Char)) (n : Nat) : Nat :=
  ((segments.take n).map (utf8Length · + 1)).sum

/-- The byte offset of a position in a text: the segment between newlines that has
    the line as its number is gone to, and the characters before the column are
    gone over.  None if there is no such segment, or if it has fewer characters. -/
def Position.offsetIn? (p : Position) (text : List Char) : Option Nat :=
  (text.splitOn '\n')[p.line - 1]?.bind fun segment =>
    if p.column - 1 ≤ segment.length then
      some (segmentStart (text.splitOn '\n') (p.line - 1) +
        utf8Length (segment.take (p.column - 1)))
    else none

theorem splitOn_newline (text : List Char) :
    ('\n' :: text).splitOn '\n' = [] :: text.splitOn '\n' := by
  rw [List.splitOn_cons_eq_if_modifyHead, if_pos (beq_self_eq_true '\n')]

theorem splitOn_cons {c : Char} (hc : c ≠ '\n') (text : List Char) :
    (c :: text).splitOn '\n' = (text.splitOn '\n').modifyHead (c :: ·) := by
  rw [List.splitOn_cons_eq_if_modifyHead, if_neg (by simpa using hc)]

theorem length_splitOn (text : List Char) :
    (text.splitOn '\n').length = text.count '\n' + 1 := by
  induction text with
  | nil => rfl
  | cons c text ih =>
    by_cases hc : c = '\n'
    · rw [hc, splitOn_newline, List.length_cons, ih, List.count_cons_self]
    · rw [splitOn_cons hc, List.length_modifyHead, ih, List.count_cons_of_ne hc]

/-- All segments together are as long as the text, with a newline more. -/
theorem sum_splitOn (text : List Char) :
    ((text.splitOn '\n').map (utf8Length · + 1)).sum = utf8Length text + 1 := by
  induction text with
  | nil => rfl
  | cons c text ih =>
    by_cases hc : c = '\n'
    · rw [hc, splitOn_newline, List.map_cons, List.sum_cons, ih, utf8Length, utf8Length,
        show '\n'.utf8Size = 1 from rfl]
      omega
    · obtain ⟨first, more, hsplit⟩ := List.exists_cons_of_ne_nil (List.splitOn_ne_nil '\n' text)
      rw [hsplit, List.map_cons, List.sum_cons] at ih
      rw [splitOn_cons hc, hsplit, List.modifyHead_cons, List.map_cons, List.sum_cons, utf8Length,
        utf8Length]
      omega

/-- What has no newline belongs to one segment. -/
theorem exists_splitOn_append {line : List Char} (h : '\n' ∉ line) (rest : List Char) :
    ∃ first more, (line ++ rest).splitOn '\n' = (line ++ first) :: more := by
  induction line with
  | nil => exact List.exists_cons_of_ne_nil (List.splitOn_ne_nil '\n' rest)
  | cons c line ih =>
    obtain ⟨hc, hline⟩ : '\n' ≠ c ∧ '\n' ∉ line := by simpa using h
    obtain ⟨first, more, hsplit⟩ := ih hline
    refine ⟨first, more, ?_⟩
    rw [List.cons_append, splitOn_cons (Ne.symm hc), hsplit, List.modifyHead_cons, List.cons_append]

theorem offsetIn?_of_splitOn (above : List (List Char)) {text line first : List Char}
    {more : List (List Char)}
    (h : text.splitOn '\n' = above ++ (line ++ first) :: more) :
    Position.offsetIn? ⟨above.length + 1, line.length + 1⟩ text =
      some ((above.map (utf8Length · + 1)).sum + utf8Length line) := by
  rw [Position.offsetIn?, h, segmentStart]
  simp

/-- **Going to the position of a place** leads to the place. -/
theorem offsetIn?_after (before rest : List Char) :
    (Position.after before).offsetIn? (before ++ rest) = some (utf8Length before) := by
  rw [Position.after_eq]
  by_cases hmem : '\n' ∈ before
  · obtain ⟨above, hbefore, hline⟩ := exists_eq_append_lastLine hmem
    obtain ⟨first, more, hsplit⟩ := exists_splitOn_append hline rest
    have hsegments : (before ++ rest).splitOn '\n' =
        above.splitOn '\n' ++ (lastLine before ++ first) :: more := by
      rw [← hsplit, ← List.splitOn_append_cons_self, ← List.cons_append, ← List.append_assoc,
        ← hbefore]
    have hcount : before.count '\n' = (above.splitOn '\n').length := by
      rw [length_splitOn, hbefore, List.count_append, List.count_cons_self,
        List.count_eq_zero_of_not_mem hline]
    have hlength : utf8Length before = utf8Length above + 1 + utf8Length (lastLine before) := by
      conv_lhs => rw [hbefore, utf8Length_append, utf8Length]
      rw [show '\n'.utf8Size = 1 from rfl, Nat.add_assoc]
    rw [hcount, offsetIn?_of_splitOn _ hsegments, sum_splitOn, hlength]
  · obtain ⟨first, more, hsplit⟩ := exists_splitOn_append hmem rest
    rw [List.count_eq_zero_of_not_mem hmem, lastLine_of_notMem hmem]
    have hplace := offsetIn?_of_splitOn [] hsplit
    rwa [List.map_nil, List.sum_nil, Nat.zero_add] at hplace

/-! ## The order of positions -/

/-- Positions are compared by their lines first, and then by their columns. -/
def Position.coordinates (p : Position) : Nat ×ₗ Nat := toLex (p.line, p.column)

/-- A text leads forward. -/
theorem Position.after_lt (before : List Char) {more : List Char} (h : more ≠ []) :
    (after before).coordinates < (after (before ++ more)).coordinates := by
  rw [after_eq, after_eq, coordinates, coordinates, Prod.Lex.toLex_lt_toLex, lastLine_append,
    List.count_append]
  by_cases hmem : '\n' ∈ more
  · have hcount := List.count_pos_iff.2 hmem
    left
    dsimp only
    omega
  · have hlength := List.length_pos_iff.2 h
    right
    rw [if_neg hmem, List.count_eq_zero_of_not_mem hmem, List.length_append]
    dsimp only
    omega

/-- The offsets of two boundaries are in the order of their positions. -/
theorem Position.after_lt_iff {text before before' : List Char} (h : before <+: text)
    (h' : before' <+: text) :
    (after before).coordinates < (after before').coordinates ↔
      utf8Length before < utf8Length before' := by
  rcases List.prefix_or_prefix_of_prefix h h' with ⟨more, rfl⟩ | ⟨more, rfl⟩
  · by_cases hmore : more = []
    · simp [hmore]
    · have hlonger := Nat.pos_of_ne_zero (mt utf8Length_eq_zero_iff.1 hmore)
      refine iff_of_true (after_lt before hmore) ?_
      rw [utf8Length_append]
      omega
  · refine iff_of_false ?_ ?_
    · by_cases hmore : more = []
      · simp [hmore]
      · exact (after_lt before' hmore).asymm
    · rw [utf8Length_append]
      omega

/-! ## Positions and boundaries -/

/-- The greatest boundary of a source up to a byte offset. -/
def boundaryUpTo (source : String) (offset : Nat) : Nat :=
  utf8Length (takeBytes offset source.toList)

section
variable (source : String) (offset other : Nat)

theorem boundaryBelow?_min :
    boundaryBelow? source.toList (min offset source.utf8ByteSize) =
      some (boundaryUpTo source offset) := by
  rw [boundaryBelow?_eq, utf8ByteSize_eq, takeBytes_min, boundaryUpTo]

theorem isGreatest_boundaryUpTo :
    IsGreatest {b | String.Pos.Raw.IsValid source ⟨b⟩ ∧ b ≤ min offset source.utf8ByteSize}
      (boundaryUpTo source offset) := by
  have hstarts := takeBytes_starts offset source.toList
  constructor
  · refine ⟨isValid_iff_exists_starts.2 ⟨_, hstarts, rfl⟩, Nat.le_min.2 ⟨?_, ?_⟩⟩
    · exact utf8Length_takeBytes_le offset source.toList
    · rw [utf8ByteSize_eq]
      exact utf8Length_le_of_prefix hstarts
  · rintro b ⟨hb, hle⟩
    obtain ⟨before, hbefore, rfl⟩ := isValid_iff_exists_starts.1 hb
    exact utf8Length_le_of_prefix (prefix_takeBytes hbefore (Nat.le_min.1 hle).1)

theorem boundaryUpTo_of_isValid {source : String} {b : Nat}
    (hb : String.Pos.Raw.IsValid source ⟨b⟩) : boundaryUpTo source b = b := by
  obtain ⟨before, ⟨rest, hrest⟩, rfl⟩ := isValid_iff_exists_starts.1 hb
  rw [boundaryUpTo, ← hrest, takeBytes_utf8Length]

theorem positionAt_eq_after :
    positionAt source offset = Position.after (takeBytes offset source.toList) := by
  rw [positionAt, Position.atOffset_eq]

theorem positionAt_boundaryUpTo :
    positionAt source (boundaryUpTo source offset) = positionAt source offset := by
  obtain ⟨rest, hrest⟩ := takeBytes_starts offset source.toList
  have htakes : takeBytes (boundaryUpTo source offset) source.toList =
      takeBytes offset source.toList := by
    have hall := takeBytes_utf8Length (takeBytes offset source.toList) rest
    rwa [hrest] at hall
  rw [positionAt_eq_after, positionAt_eq_after, htakes]

theorem offsetIn?_positionAt :
    (positionAt source offset).offsetIn? source.toList = some (boundaryUpTo source offset) := by
  obtain ⟨rest, hrest⟩ := takeBytes_starts offset source.toList
  have hplace := offsetIn?_after (takeBytes offset source.toList) rest
  rwa [hrest, ← positionAt_eq_after] at hplace

theorem coordinates_positionAt_lt_iff :
    (positionAt source offset).coordinates < (positionAt source other).coordinates ↔
      boundaryUpTo source offset < boundaryUpTo source other := by
  rw [positionAt_eq_after, positionAt_eq_after]
  exact Position.after_lt_iff (takeBytes_starts offset _) (takeBytes_starts other _)

/-- A position determines its boundary, and the boundary determines the position. -/
theorem positionAt_eq_iff :
    positionAt source offset = positionAt source other ↔
      boundaryUpTo source offset = boundaryUpTo source other := by
  constructor
  · intro h
    have hplace := offsetIn?_positionAt source offset
    rw [h, offsetIn?_positionAt] at hplace
    exact (Option.some.inj hplace).symm
  · intro h
    rw [← positionAt_boundaryUpTo source offset, h, positionAt_boundaryUpTo]

/-- **Positions are faithful coordinates of the boundaries of a source.**  Going
    back from an offset ends at the greatest boundary up to the offset and the end
    of the source; no step of finding the position fails, and the position found
    is that of the boundary.  Going to the position leads to the boundary again.
    So positions are the same exactly if their boundaries are, and they are in the
    order of their boundaries. -/
theorem positionAt_faithful :
    boundaryBelow? source.toList (min offset source.utf8ByteSize) =
        some (boundaryUpTo source offset) ∧
      IsGreatest {b | String.Pos.Raw.IsValid source ⟨b⟩ ∧ b ≤ min offset source.utf8ByteSize}
        (boundaryUpTo source offset) ∧
      slicedPosition? source offset = some (positionAt source offset) ∧
      positionAt source offset = positionAt source (boundaryUpTo source offset) ∧
      (positionAt source offset).offsetIn? source.toList = some (boundaryUpTo source offset) ∧
      (positionAt source offset = positionAt source other ↔
        boundaryUpTo source offset = boundaryUpTo source other) ∧
      ((positionAt source offset).coordinates < (positionAt source other).coordinates ↔
        boundaryUpTo source offset < boundaryUpTo source other) ∧
      Set.InjOn (positionAt source) {b | String.Pos.Raw.IsValid source ⟨b⟩} ∧
      StrictMonoOn (fun b => (positionAt source b).coordinates)
        {b | String.Pos.Raw.IsValid source ⟨b⟩} := by
  refine ⟨boundaryBelow?_min source offset, isGreatest_boundaryUpTo source offset,
    slicedPosition?_eq source offset, (positionAt_boundaryUpTo source offset).symm,
    offsetIn?_positionAt source offset, positionAt_eq_iff source offset other,
    coordinates_positionAt_lt_iff source offset other, ?_, ?_⟩
  · intro b hb c hc h
    rwa [positionAt_eq_iff, boundaryUpTo_of_isValid hb, boundaryUpTo_of_isValid hc] at h
  · intro b hb c hc h
    rwa [coordinates_positionAt_lt_iff, boundaryUpTo_of_isValid hb, boundaryUpTo_of_isValid hc]

end

end PotCatalog
