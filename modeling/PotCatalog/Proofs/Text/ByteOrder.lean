/-
  The order of texts by their bytes.

  Texts are ordered by their characters; their encodings in UTF-8 are ordered
  in the same way (`bytesOf_lt_of_lt`), since of two different characters the
  smaller one has the smaller encoding, whatever follows either of them.
-/
import Mathlib.Data.List.Basic
import PotCatalog.Text.Utf8

namespace PotCatalog

/-- The first bytes in which the encodings of two characters differ decide. -/
theorem utf8EncodeChar_append_lt {c d : Char} (h : c < d) (xs ys : List UInt8) :
    String.utf8EncodeChar c ++ xs < String.utf8EncodeChar d ++ ys := by
  have hlt : c.val.toNat < d.val.toNat := h
  have hd : d.val.toNat < 0x110000 := by
    rcases d.valid with h | ⟨-, h⟩
    · exact Nat.lt_trans h (by decide)
    · exact h
  unfold String.utf8EncodeChar
  generalize c.val.toNat = m at hlt
  generalize d.val.toNat = n at hlt hd
  -- the bytes are digits to the base of 64, each the quotient of the one behind it
  have hthird : ∀ k : Nat, k / 4096 = k / 64 / 64 := fun k => by omega
  have hfourth : ∀ k : Nat, k / 262144 = k / 64 / 64 / 64 := fun k => by omega
  dsimp only
  split_ifs
  all_goals
    simp only [List.cons_append, List.nil_append, List.cons_lt_cons_iff, UInt8.lt_iff_toNat_lt,
      ← UInt8.toNat_inj, UInt8.toNat_ofNat', hthird, hfourth]
    omega

theorem flatMap_utf8EncodeChar_lt {xs ys : List Char} (h : xs < ys) :
    xs.flatMap String.utf8EncodeChar < ys.flatMap String.utf8EncodeChar := by
  rw [← List.lex_lt] at h
  induction h with
  | nil =>
    obtain ⟨b, bytes, hb⟩ := List.exists_cons_of_ne_nil String.utf8EncodeChar_ne_nil
    rw [List.flatMap_cons, hb]
    exact List.nil_lt_cons _ _
  | rel hlt => exact utf8EncodeChar_append_lt hlt _ _
  | cons _ ih => exact List.append_left_lt ih

/-- **Texts in order are in order by their bytes.** -/
theorem bytesOf_lt_of_lt {s t : String} (h : s < t) : bytesOf s < bytesOf t := by
  rw [bytesOf_eq_flatMap, bytesOf_eq_flatMap]
  exact flatMap_utf8EncodeChar_lt h

end PotCatalog
