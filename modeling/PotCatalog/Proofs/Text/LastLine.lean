/-
  The line on which a text ends.

  `lastLine` is what stands behind the last newline of a text.  Positions count
  the newlines before a place and the columns of its line
  (`Position.foldl_step`), and the line with that number starts with the last
  line of what stands before the place (`lines_append`), unless the place is in
  the middle of a line ending.
-/
import Mathlib.Algebra.GroupWithZero.Nat
import Mathlib.Data.List.DropRight
import Mathlib.Data.List.Induction
import PotCatalog.Text.Lines

namespace PotCatalog

/-- The characters of a text behind its last newline. -/
def lastLine (text : List Char) : List Char := text.rtakeWhile (· != '\n')

theorem lastLine_concat (text : List Char) (c : Char) :
    lastLine (text ++ [c]) = if c = '\n' then [] else lastLine text ++ [c] := by
  rw [lastLine, List.rtakeWhile_concat]
  split_ifs <;> simp_all [lastLine]

theorem lastLine_append (above text : List Char) :
    lastLine (above ++ text) = if '\n' ∈ text then lastLine text else lastLine above ++ text := by
  induction text using List.reverseRecOn with
  | nil => simp
  | append_singleton text c ih =>
    rw [← List.append_assoc, lastLine_concat, lastLine_concat, ih]
    by_cases hc : c = '\n'
    · simp [hc]
    · have hmem : '\n' ∈ text ++ [c] ↔ '\n' ∈ text := by simp [Ne.symm hc]
      simp only [hmem, if_neg hc]
      split_ifs
      · rfl
      · rw [List.append_assoc]

theorem lastLine_of_notMem {text : List Char} (h : '\n' ∉ text) : lastLine text = text :=
  List.rtakeWhile_eq_self_iff.2 fun _ hc => bne_iff_ne.2 (ne_of_mem_of_not_mem hc h)

theorem lastLine_cons_newline (text : List Char) : lastLine ('\n' :: text) = lastLine text := by
  rw [← List.singleton_append, lastLine_append]
  split_ifs with h
  · rfl
  · rw [lastLine_of_notMem h]
    rfl

theorem lastLine_cons_of_mem (c : Char) {text : List Char} (h : '\n' ∈ text) :
    lastLine (c :: text) = lastLine text := by
  rw [← List.singleton_append, lastLine_append, if_pos h]

/-! ## Positions -/

/-- The position behind a character that takes the given columns. -/
def Position.stepBy (columns : Char → Nat) (p : Position) (c : Char) : Position :=
  if c = '\n' then ⟨p.line + 1, 1⟩ else ⟨p.line, p.column + columns c⟩

/-- **The position behind a text** counts its newlines and the columns of its
    last line. -/
theorem Position.foldl_stepBy (columns : Char → Nat) (text : List Char) :
    text.foldl (Position.stepBy columns) Position.first =
      ⟨text.count '\n' + 1, ((lastLine text).map columns).sum + 1⟩ := by
  induction text using List.reverseRecOn with
  | nil => rfl
  | append_singleton text c ih =>
    rw [List.foldl_concat, ih, Position.stepBy, lastLine_concat, List.count_append]
    by_cases hc : c = '\n'
    · simp [hc]
    · simp [hc, Nat.add_right_comm]

/-- Where every character takes one column. -/
theorem Position.after_eq (text : List Char) :
    Position.after text = ⟨text.count '\n' + 1, (lastLine text).length + 1⟩ := by
  have hstep : Position.step = Position.stepBy fun _ => 1 := rfl
  rw [Position.after, hstep, Position.foldl_stepBy, List.map_const', List.sum_replicate_nat,
    Nat.mul_one]

theorem utf8Length_append (cs ds : List Char) :
    utf8Length (cs ++ ds) = utf8Length cs + utf8Length ds := by
  induction cs with
  | nil => simp [utf8Length]
  | cons c cs ih => simp [utf8Length, ih, Nat.add_assoc]

theorem takeBytes_utf8Length (before rest : List Char) :
    takeBytes (utf8Length before) (before ++ rest) = before := by
  induction before with
  | nil => cases rest <;> simp [takeBytes, utf8Length, Nat.pos_iff_ne_zero.1 (Char.utf8Size_pos _)]
  | cons c before ih => simp [takeBytes, utf8Length, ih]

/-! ## Lines -/

/-- A place between the two signs of a line ending. -/
def SplitsEnding (before rest : List Char) : Prop :=
  before.getLast? = some '\r' ∧ rest.head? = some '\n'

theorem SplitsEnding.cons {before rest : List Char} (c : Char) (h : SplitsEnding before rest) :
    SplitsEnding (c :: before) rest :=
  ⟨by rw [List.getLast?_cons, h.1]; rfl, h.2⟩

theorem lines_newline (text : List Char) : lines ('\n' :: text) = [] :: lines text := by
  rw [lines]

/-- A carriage return is dropped in front of a newline. -/
theorem lines_return (text : List Char) : lines ('\r' :: '\n' :: text) = lines ('\n' :: text) := by
  rw [lines, lines]

theorem lines_cons {c : Char} {text : List Char} (hc : c ≠ '\n')
    (hreturn : ¬ (c = '\r' ∧ text.head? = some '\n')) :
    lines (c :: text) = (c :: (lines text).head?.getD []) :: (lines text).tail := by
  rw [lines.eq_4 c text hc (by rintro cs rfl rfl; exact hreturn ⟨rfl, rfl⟩)]
  cases lines text <;> rfl

/-- **The line of a place** starts with what stands before the place on it. -/
theorem lines_append {before rest : List Char} (h : ¬ SplitsEnding before rest) :
    (lines (before ++ rest))[before.count '\n']?.getD [] =
      lastLine before ++ (lines rest).head?.getD [] := by
  induction before with
  | nil => simp [List.head?_eq_getElem?, lastLine]
  | cons c before ih =>
    specialize ih fun hsplits => h (hsplits.cons c)
    by_cases hc : c = '\n'
    · rw [hc, List.cons_append, lines_newline, List.count_cons_self, List.getElem?_cons_succ, ih,
        lastLine_cons_newline]
    · rw [List.count_cons_of_ne hc, List.cons_append]
      by_cases hreturn : c = '\r' ∧ (before ++ rest).head? = some '\n'
      · -- the ending is not split, so the newline stands in front of the place as well
        obtain ⟨rfl, hhead⟩ := hreturn
        cases before with
        | nil => exact absurd ⟨rfl, hhead⟩ h
        | cons d before =>
          obtain rfl : d = '\n' := Option.some.inj hhead
          rw [List.cons_append, lines_return, ← List.cons_append, ih,
            lastLine_cons_of_mem _ List.mem_cons_self]
      · rw [lines_cons hc hreturn]
        by_cases hmem : '\n' ∈ before
        · obtain ⟨n, hn⟩ := Nat.exists_eq_succ_of_ne_zero (List.count_pos_iff.2 hmem).ne'
          rw [hn] at ih ⊢
          rw [lastLine_cons_of_mem c hmem, List.getElem?_cons_succ, List.getElem?_tail, ih]
        · rw [List.count_eq_zero_of_not_mem hmem, lastLine_of_notMem hmem] at *
          rw [lastLine_of_notMem (by simp [Ne.symm hc, hmem]), List.getElem?_cons_zero,
            Option.getD_some, List.head?_eq_getElem?, ih, List.cons_append]

end PotCatalog
