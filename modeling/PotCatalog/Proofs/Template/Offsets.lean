/-
  Where the tokens of a template start.

  A step of the scanner moves its cursor forward, over the token it yields
  (`step_advances`), so each token starts behind the one before it
  (`scan_increasing`).
-/
import Mathlib.Data.List.Basic
import Mathlib.Order.Nat
import PotCatalog.Template.Scan

namespace PotCatalog

/-! ## Cursors -/

theorem utf8Length_pos {cs : List Char} (h : cs ≠ []) : 0 < utf8Length cs := by
  obtain ⟨c, rest, rfl⟩ := List.exists_cons_of_ne_nil h
  have := c.utf8Size_pos
  rw [utf8Length]
  omega

namespace Cursor

theorem le_offset_advance (c : Cursor) : c.offset ≤ c.advance.offset := by
  obtain ⟨rest, n⟩ := c
  cases rest with
  | nil => exact Nat.le_refl n
  | cons first rest => exact Nat.le_add_right ..

theorem le_offset_skip (c : Cursor) (n : Nat) : c.offset ≤ (c.skip n).offset := by
  induction n generalizing c with
  | zero => exact Nat.le_refl _
  | succ n ih => exact (le_offset_advance c).trans (ih c.advance)

theorem offset_lt_skip {c : Cursor} (h : c.rest ≠ []) {n : Nat} (hn : 0 < n) :
    c.offset < (c.skip n).offset := by
  obtain ⟨m, rfl⟩ := Nat.exists_eq_succ_of_ne_zero hn.ne'
  have hstep : c.offset < c.advance.offset := by
    obtain ⟨rest, offset⟩ := c
    obtain ⟨first, rest, rfl⟩ := List.exists_cons_of_ne_nil h
    exact Nat.lt_add_of_pos_right first.utf8Size_pos
  exact hstep.trans_le (le_offset_skip c.advance m)

theorem offset_lt_past {c : Cursor} {taken : List Char} (h : taken ≠ []) (rest : List Char) :
    c.offset < (c.past taken rest).offset :=
  Nat.lt_add_of_pos_right (utf8Length_pos h)

theorem le_offset_past (c : Cursor) (taken rest : List Char) :
    c.offset ≤ (c.past taken rest).offset :=
  Nat.le_add_right ..

theorem offset_lt_skipWhile {c : Cursor} {p : Char → Bool} {first : Char} {rest : List Char}
    (h : c.rest = first :: rest) (hp : p first = true) : c.offset < (c.skipWhile p).offset := by
  apply offset_lt_past
  rw [run, h, List.takeWhile_cons_of_pos hp]
  exact List.cons_ne_nil _ _

end Cursor

namespace Template

theorem le_offset_behind (c : Cursor) (length : Nat) (trims : Bool) :
    (c.skip length).offset ≤ (behind c length trims).offset := by
  rw [behind]
  cases trims with
  | true => exact Cursor.le_offset_past ..
  | false => exact Nat.le_refl _

/-! ## One step -/

/-- A step moves a cursor forward, and over the token that it yields. -/
def Step.Advances (c : Cursor) : Step → Prop
  | .finish | .fail _ _ => True
  | .skip _ next => c.offset ≤ next.offset
  | .emit _ start _ next => c.offset ≤ start ∧ start < next.offset

theorem openingLength_pos (text : List Char) : 0 < openingLength text := by
  rw [openingLength]
  split
  · split <;> omega
  · omega

theorem closing?_pos {delimiter text : List Char} {length : Nat} {trims : Bool}
    (hdelimiter : delimiter ≠ []) (h : closing? delimiter text = some (length, trims)) :
    0 < length := by
  have hpos := List.length_pos_iff.2 hdelimiter
  unfold closing? at h
  split at h
  · split_ifs at h <;> cases h <;> omega
  · cases h

/-- The end of a raw block stands somewhere behind its start. -/
theorem cutRaw_pos {text body : List Char} {length : Nat} {trims : Bool}
    (h : cutRaw text = some (body, length, trims)) : text ≠ [] ∧ 0 < length := by
  induction text generalizing body length with
  | nil => cases h
  | cons c cs ih =>
    refine ⟨List.cons_ne_nil c cs, ?_⟩
    rw [cutRaw] at h
    dsimp only at h
    split at h
    · rename_i found htag
      cases h
      split_ifs at htag
      obtain ⟨⟨inner, trims⟩, hinner, heq⟩ := Option.map_eq_some_iff.1 htag
      have := openingLength_pos (c :: cs)
      cases heq
      omega
    · obtain ⟨⟨body, length, trims⟩, -, heq⟩ := Option.map_eq_some_iff.1 h
      cases heq
      omega

theorem openTag_advances (tag : Tag) {c : Cursor} (h : c.rest ≠ []) : (openTag tag c).Advances c := by
  have hinside := Cursor.offset_lt_skip h (openingLength_pos c.rest)
  unfold openTag
  dsimp only
  cases tag with
  | «variable» => exact ⟨Nat.le_refl _, hinside⟩
  | comment =>
    dsimp only
    split
    · trivial
    · exact hinside.le.trans ((Cursor.le_offset_skip ..).trans
        ((Cursor.le_offset_skip ..).trans (le_offset_behind ..)))
  | block =>
    dsimp only
    split
    · exact ⟨Nat.le_refl _, hinside⟩
    · split
      · trivial
      · rename_i hraw
        obtain ⟨hrest, hlength⟩ := cutRaw_pos hraw
        exact ⟨hinside.le.trans ((Cursor.le_offset_skip ..).trans (le_offset_behind ..)),
          (Cursor.offset_lt_skip hrest hlength).trans_le (le_offset_behind ..)⟩

theorem stepOutside_advances (c : Cursor) : (stepOutside c).Advances c := by
  unfold stepOutside
  split
  · trivial
  · rename_i hrest
    split
    · rename_i tag _
      exact openTag_advances tag hrest
    · rename_i hopening
      have hdata : (cutData c.rest).1 ≠ [] := by
        obtain ⟨first, rest, hcons⟩ := List.exists_cons_of_ne_nil hrest
        rw [hcons] at hopening ⊢
        simp [cutData, hopening]
      dsimp only
      generalize (if (cutData c.rest).2[2]? = some '-' then _ else _ : List Char) = kept
      split_ifs
      · exact Cursor.le_offset_past ..
      · exact ⟨Nat.le_refl _, Cursor.offset_lt_past hdata _⟩

theorem stepString_advances (delimiter : Char) (place : Place) (c : Cursor) :
    (stepString delimiter place c).Advances c := by
  have hstring : ∀ inside rest,
      c.offset < (c.past (delimiter :: inside ++ [delimiter]) rest).offset :=
    fun inside rest => Cursor.offset_lt_past (List.cons_ne_nil _ _) rest
  unfold stepString
  split
  · trivial
  · dsimp only
    split_ifs
    · split
      · exact ⟨Nat.le_refl _, hstring ..⟩
      · trivial
    · exact ⟨Nat.le_refl _, hstring ..⟩

theorem scanNumber_ne_nil {first : Char} {rest : List Char} (h : first.isDigit = true) :
    (scanNumber 10 .integer (first :: rest)).1 ≠ [] := by
  simp [scanNumber, NumberPart.next, h]

theorem stepNumber_advances (place : Place) {c : Cursor} {first : Char} {rest : List Char}
    (hrest : c.rest = first :: rest) (hdigit : first.isDigit = true) :
    (stepNumber place c).Advances c := by
  have hne : c.rest ≠ [] := hrest ▸ List.cons_ne_nil _ _
  unfold stepNumber
  dsimp only
  split
  · refine ⟨Nat.le_refl _, ?_⟩
    split_ifs with hbase
    · rw [hbase, hrest]
      exact Cursor.offset_lt_past (scanNumber_ne_nil hdigit) _
    · exact (Cursor.offset_lt_skip hne Nat.two_pos).trans_le (Cursor.le_offset_past ..)
  · trivial

theorem Symbol.length_spelling_pos (s : Symbol) : 0 < s.spelling.length := by
  cases s <;> decide

theorem isIdentifierPart_of_start {c : Char} (h : isIdentifierStart c = true) :
    isIdentifierPart c = true := by
  simp only [isIdentifierStart, isIdentifierPart, Char.isAlphanum, Bool.or_eq_true] at h ⊢
  exact h.imp_left Or.inl

theorem stepInside_advances (place : Place) (balance : Int) (c : Cursor) :
    (stepInside place balance c).Advances c := by
  unfold stepInside
  split
  · trivial
  · rename_i first rest hrest
    have hne : c.rest ≠ [] := hrest ▸ List.cons_ne_nil _ _
    by_cases hblank : isAsciiBlank first = true
    · rw [if_pos hblank]
      exact Cursor.le_offset_past ..
    · rw [if_neg hblank]
      have hcloser : place.closer.1 ≠ [] := by cases place <;> simp [Place.closer]
      dsimp only
      split
      · rename_i length trims hclosing
        split_ifs at hclosing
        exact ⟨Nat.le_refl _, (Cursor.offset_lt_skip hne (closing?_pos hcloser hclosing)).trans_le
          (le_offset_behind ..)⟩
      · split
        · rename_i s _
          exact ⟨Nat.le_refl _, Cursor.offset_lt_skip hne s.length_spelling_pos⟩
        · split_ifs with _ hdigit hstart
          · exact stepString_advances first place c
          · exact stepNumber_advances place hrest hdigit
          · exact ⟨Nat.le_refl _,
              Cursor.offset_lt_skipWhile hrest (isIdentifierPart_of_start hstart)⟩
          · trivial

/-- **A step moves the cursor forward.** -/
theorem step_advances (place : Place) (balance : Int) (c : Cursor) :
    (step place balance c).Advances c := by
  cases place with
  | outside => exact stepOutside_advances c
  | «variable» => exact stepInside_advances .variable balance c
  | block => exact stepInside_advances .block balance c

/-! ## All tokens -/

theorem scanFrom_increasing (n : Nat) (place : Place) (balance : Int) (c : Cursor) :
    (∀ lexeme ∈ (scanFrom n place balance c).lexemes, c.offset ≤ lexeme.start) ∧
      (scanFrom n place balance c).lexemes.Pairwise (·.start < ·.start) := by
  induction n generalizing place balance c with
  | zero => exact ⟨by simp [scanFrom], .nil⟩
  | succ n ih =>
    have hstep := step_advances place balance c
    rw [scanFrom]
    split
    · exact ⟨by simp, .nil⟩
    · exact ⟨by simp, .nil⟩
    · rename_i place' next heq
      rw [heq] at hstep
      obtain ⟨hall, hpairwise⟩ := ih place' balance next
      exact ⟨fun lexeme hmem => hstep.trans (hall lexeme hmem), hpairwise⟩
    · rename_i token start place' next heq
      rw [heq] at hstep
      obtain ⟨hstart, hnext⟩ := hstep
      obtain ⟨hall, hpairwise⟩ := ih place' (balance + token.balance) next
      have hbehind : ∀ lexeme ∈ (scanFrom n place' (balance + token.balance) next).lexemes,
          start < lexeme.start := fun lexeme hmem => hnext.trans_le (hall lexeme hmem)
      refine ⟨?_, .cons hbehind hpairwise⟩
      rintro lexeme (_ | ⟨_, hmem⟩)
      · exact hstart
      · exact hstart.trans (hbehind lexeme hmem).le

/-- **Each token starts behind the one before it.** -/
theorem scan_increasing (source : String) :
    (scan source).lexemes.Pairwise (·.start < ·.start) :=
  (scanFrom_increasing ..).2

end Template

end PotCatalog
