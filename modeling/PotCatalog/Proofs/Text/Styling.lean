/-
  Text without its styling.

  A styling sequence is an escape character, a bracket, numbers and the letter
  m.  Taking these sequences out of a text that is written with colours leaves
  the text as it is written without them, unless the text itself holds escape
  characters (`withoutStyling_render`).
-/
import PotCatalog.Text.Style

namespace PotCatalog

/-! ## Styling sequences -/

/-- The characters in the middle of a styling sequence. -/
def isStyleCode (c : Char) : Bool := c.isDigit || c == ';'

/-- What stands behind the styling sequence at the start of a text. -/
def behindStyling? : List Char → Option (List Char)
  | '\x1b' :: '[' :: cs =>
    match cs.dropWhile isStyleCode with
    | 'm' :: rest => some rest
    | _ => none
  | _ => none

theorem length_behindStyling? {cs rest : List Char} (h : behindStyling? cs = some rest) :
    rest.length < cs.length := by
  unfold behindStyling? at h
  split at h
  case h_1 cs =>
    split at h
    case h_1 kept hkept =>
      obtain rfl := Option.some.inj h
      have hlength := (List.dropWhile_sublist isStyleCode (l := cs)).length_le
      rw [hkept, List.length_cons] at hlength
      simp only [List.length_cons]
      omega
    case h_2 => cases h
  case h_2 => cases h

/-- A text without its styling sequences. -/
def withoutStyling (cs : List Char) : List Char :=
  match _h : behindStyling? cs with
  | some rest => withoutStyling rest
  | none =>
    match cs with
    | [] => []
    | c :: cs => c :: withoutStyling cs
termination_by cs.length
decreasing_by
  · exact length_behindStyling? _h
  · exact Nat.lt_succ_self _

theorem withoutStyling_nil : withoutStyling [] = [] := by
  rw [withoutStyling]
  rfl

theorem withoutStyling_cons {c : Char} (rest : List Char) (hc : c ≠ '\x1b') :
    withoutStyling (c :: rest) = c :: withoutStyling rest := by
  have hnone : behindStyling? (c :: rest) = none := by
    unfold behindStyling?
    split
    case h_1 heq => exact absurd (List.cons.inj heq).1 hc
    case h_2 => rfl
  rw [withoutStyling]
  split
  case h_1 heq => cases hnone.symm.trans heq
  case h_2 => rfl

theorem withoutStyling_append {text : List Char} (rest : List Char) (h : '\x1b' ∉ text) :
    withoutStyling (text ++ rest) = text ++ withoutStyling rest := by
  induction text with
  | nil => rfl
  | cons c text ih =>
    rw [List.mem_cons, not_or] at h
    rw [List.cons_append, withoutStyling_cons _ (Ne.symm h.1), ih h.2, List.cons_append]

theorem withoutStyling_sequence {codes : List Char} (rest : List Char)
    (h : ∀ c ∈ codes, isStyleCode c = true) :
    withoutStyling ('\x1b' :: '[' :: (codes ++ 'm' :: rest)) = withoutStyling rest := by
  have hbehind : behindStyling? ('\x1b' :: '[' :: (codes ++ 'm' :: rest)) = some rest := by
    rw [behindStyling?, List.dropWhile_append_of_pos h]
    rfl
  rw [withoutStyling]
  split
  case h_1 heq => rw [Option.some.inj (hbehind.symm.trans heq)]
  case h_2 heq => cases hbehind.symm.trans heq

/-! ## Texts without escape characters -/

@[simp] theorem escape_notMem_toDigits (n : Nat) : '\x1b' ∉ Nat.toDigits 10 n := fun h =>
  absurd (Nat.isDigit_of_mem_toDigits (by decide) (by decide) h) (by decide)

namespace StyledText

/-- A styled text without escape characters. -/
def IsEscapeFree (text : StyledText) : Prop := ∀ piece ∈ text, '\x1b' ∉ piece.text.toList

@[simp] theorem isEscapeFree_nil : IsEscapeFree [] := by simp [IsEscapeFree]

@[simp] theorem isEscapeFree_cons {piece : Piece} {text : StyledText} :
    IsEscapeFree (piece :: text) ↔ '\x1b' ∉ piece.text.toList ∧ IsEscapeFree text :=
  List.forall_mem_cons

@[simp] theorem isEscapeFree_append {xs ys : StyledText} :
    IsEscapeFree (xs ++ ys) ↔ IsEscapeFree xs ∧ IsEscapeFree ys :=
  List.forall_mem_append

theorem isEscapeFree_flatMap {α : Type} {f : α → StyledText} {l : List α}
    (h : ∀ a ∈ l, IsEscapeFree (f a)) : IsEscapeFree (l.flatMap f) := by
  intro piece hpiece
  obtain ⟨a, ha, hpiece⟩ := List.mem_flatMap.1 hpiece
  exact h a ha piece hpiece

end StyledText

/-! ## Styled text -/

theorem StyledText.toList_render_cons (color : Bool) (piece : Piece) (text : StyledText) :
    (StyledText.render color (piece :: text)).toList =
      (piece.render color).toList ++ (text.render color).toList := by
  simp [StyledText.render, String.toList_join]

theorem StyledText.toList_render_append (color : Bool) (xs ys : StyledText) :
    (StyledText.render color (xs ++ ys)).toList =
      (xs.render color).toList ++ (ys.render color).toList := by
  simp [StyledText.render, String.toList_join]

theorem Piece.render_false (piece : Piece) : piece.render false = piece.text := rfl

theorem Style.isStyleCode_code (style : Style) : ∀ c ∈ style.code.toList, isStyleCode c = true := by
  refine List.all_eq_true.1 ?_
  cases style <;> rfl

/-- The numbers of styles stand in the middle of a styling sequence. -/
theorem isStyleCode_codes (styles : List Style) :
    ∀ c ∈ (";".intercalate (styles.map Style.code)).toList, isStyleCode c = true := by
  induction styles with
  | nil => simp
  | cons style styles ih =>
    cases styles with
    | nil => simpa using style.isStyleCode_code
    | cons next styles =>
      rw [List.map_cons, List.map_cons, String.intercalate_cons_cons, String.toList_append,
        String.toList_append]
      intro c hc
      rcases List.mem_append.1 hc with hc | hc
      · rcases List.mem_append.1 hc with hc | hc
        · exact style.isStyleCode_code c hc
        · obtain rfl : c = ';' := List.mem_singleton.1 hc
          rfl
      · exact ih c hc

theorem Piece.withoutStyling_render (piece : Piece) (rest : List Char)
    (h : '\x1b' ∉ piece.text.toList) :
    withoutStyling ((piece.render true).toList ++ rest) =
      piece.text.toList ++ withoutStyling rest := by
  rw [Piece.render]
  split
  case isTrue =>
    -- the text stands between two sequences, the second of which resets the styles
    have hreset : withoutStyling ("\x1b[0m".toList ++ rest) = withoutStyling rest :=
      withoutStyling_sequence rest (List.forall_mem_singleton.2 rfl : ∀ c ∈ ['0'], isStyleCode c)
    have hstart := withoutStyling_sequence (piece.text.toList ++ ("\x1b[0m".toList ++ rest))
      (isStyleCode_codes piece.styles)
    rw [withoutStyling_append _ h, hreset] at hstart
    rw [← hstart]
    simp [String.toList_append]
  case isFalse => exact withoutStyling_append rest h

/-- **Without its styling sequences** a text is what it is without colours. -/
theorem StyledText.withoutStyling_render {text : StyledText} (h : text.IsEscapeFree) :
    withoutStyling (text.render true).toList = (text.render false).toList := by
  induction text with
  | nil => exact withoutStyling_nil
  | cons piece text ih =>
    rw [isEscapeFree_cons] at h
    rw [toList_render_cons, toList_render_cons, piece.withoutStyling_render _ h.1, ih h.2,
      Piece.render_false]

end PotCatalog
