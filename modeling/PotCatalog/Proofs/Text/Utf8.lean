/-
  Reading bytes back.

  Bytes are read one by one.  A byte below 128 is a character of its own, wherever
  it stands (`readBytes_append_cons`), and only such a byte is read as such a
  character (`exists_byte_of_mem_readBytes`, `readBytes_eq_map_iff`), since a
  character that is begun can only become one of several bytes
  (`BegunChar.Sound`).

  `textOf_bytesOf`: the bytes of a text are read as that text.
-/
import Mathlib.Algebra.GroupWithZero.Nat
import Mathlib.Data.List.Basic
import PotCatalog.Text.Utf8

namespace PotCatalog

theorem toNat_ofNat_of_isValidChar {n : Nat} (h : n.isValidChar) : (Char.ofNat n).toNat = n := by
  rw [Char.ofNat, dif_pos h]
  rfl

namespace BegunChar

/-- The least number that a begun character can still have, -/
def least (b : BegunChar) : Nat := (b.number * 64 + (b.low - 0x80)) * 64 ^ b.more

/-- and the first number above those that it can have. -/
def bound (b : BegunChar) : Nat := (b.number * 64 + (b.high - 0x80) + 1) * 64 ^ b.more

/-- A begun character goes on with a byte that is no character of its own, and can
    only become a character that takes several bytes. -/
structure Sound (b : BegunChar) : Prop where
  low_le : 0x80 ≤ b.low
  least_le : 0x80 ≤ b.least
  isChar : b.bound ≤ 0xD800 ∨ 0xE000 ≤ b.least ∧ b.bound ≤ 0x110000

theorem sound_of_ofByte? {byte : Nat} {b : BegunChar} (h : ofByte? byte = some b) : b.Sound := by
  unfold ofByte? at h
  split_ifs at h
  all_goals
    obtain rfl := Option.some.inj h
    constructor <;> simp only [least, bound] <;> omega

variable {b : BegunChar} {byte : Nat}

/-- A byte in the range leaves fewer numbers. -/
theorem extended_bounds (hlow : b.low ≤ byte) (hhigh : byte ≤ b.high) :
    b.least ≤ b.extended byte * 64 ^ b.more ∧ (b.extended byte + 1) * 64 ^ b.more ≤ b.bound := by
  constructor <;> exact Nat.mul_le_mul_right _ (by unfold extended; omega)

theorem Sound.extended (h : b.Sound) (hlow : b.low ≤ byte) (hhigh : byte ≤ b.high) {more : Nat}
    (hmore : b.more = more + 1) : Sound ⟨b.extended byte, 0x80, 0xBF, more⟩ := by
  obtain ⟨hleast, hbound⟩ := extended_bounds hlow hhigh
  obtain ⟨-, hsome, hchar⟩ := h
  have hdigit : 64 ^ b.more = 64 * 64 ^ more := by rw [hmore, Nat.pow_succ, Nat.mul_comm]
  rw [hdigit, ← Nat.mul_assoc] at hleast hbound
  have hnext : (b.extended byte * 64 + (0xBF - 0x80) + 1) = (b.extended byte + 1) * 64 := by omega
  refine ⟨Nat.le_refl _, ?_, ?_⟩ <;>
    simp only [least, bound, hnext, Nat.sub_self, Nat.add_zero] <;> omega

/-- The number is that of a character that takes several bytes. -/
theorem Sound.le_toNat_ofNat (h : b.Sound) (hlow : b.low ≤ byte) (hhigh : byte ≤ b.high)
    (hmore : b.more = 0) : 0x80 ≤ (Char.ofNat (b.extended byte)).toNat := by
  obtain ⟨hleast, hbound⟩ := extended_bounds hlow hhigh
  obtain ⟨-, hsome, hchar⟩ := h
  rw [hmore, Nat.pow_zero, Nat.mul_one] at hleast hbound
  have hvalid : (b.extended byte).isValidChar := by
    unfold Nat.isValidChar
    omega
  rw [toNat_ofNat_of_isValidChar hvalid]
  omega

end BegunChar

/-! ## Bytes one by one -/

variable {begun : Option BegunChar} {byte : UInt8}

/-- A byte that is a character of its own breaks off a character that is begun. -/
theorem readByte_of_lt (hbegun : ∀ b ∈ begun, b.Sound) (hbyte : byte < 0x80) :
    readByte begun byte =
      ⟨brokenOff begun ++ [Char.ofUInt8 byte], none⟩ := by
  have hfirst : ByteReading.ofByte byte = ⟨[.ofUInt8 byte], none⟩ := if_pos hbyte
  cases begun with
  | none => exact hfirst
  | some b =>
    have hlow := (hbegun b rfl).low_le
    have hbyte' : byte.toNat < 0x80 := UInt8.lt_iff_toNat_lt.1 hbyte
    have hnot : ¬ (b.low ≤ byte.toNat ∧ byte.toNat ≤ b.high) := by omega
    show b.next byte = _
    rw [BegunChar.next, if_neg hnot, hfirst]
    rfl

/-- What is read at other bytes: no such characters, and not nothing. -/
structure ByteReading.IsWide (reading : ByteReading) : Prop where
  le_of_mem : ∀ c ∈ reading.chars, 0x80 ≤ c.toNat
  sound : ∀ b ∈ reading.begun, b.Sound
  isSome_of_nil : reading.chars = [] → reading.begun.isSome = true

theorem ByteReading.isWide_ofByte (hbyte : ¬ byte < 0x80) : (ofByte byte).IsWide := by
  rw [ofByte, if_neg hbyte]
  cases hbegin : BegunChar.ofByte? byte.toNat with
  | none => exact ⟨List.forall_mem_singleton.2 (by decide), by simp, by simp⟩
  | some b => exact ⟨by simp, by simpa using BegunChar.sound_of_ofByte? hbegin, by simp⟩

theorem BegunChar.Sound.isWide_next {b : BegunChar} (h : b.Sound) (hbyte : ¬ byte < 0x80) :
    (b.next byte).IsWide := by
  rw [BegunChar.next]
  split_ifs with hrange
  · cases hmore : b.more with
    | zero => exact ⟨by simpa using h.le_toNat_ofNat hrange.1 hrange.2 hmore, by simp, by simp⟩
    | succ more => exact ⟨by simp, by simpa using h.extended hrange.1 hrange.2 hmore, by simp⟩
  · obtain ⟨hchars, hsound, -⟩ := ByteReading.isWide_ofByte hbyte
    refine ⟨?_, hsound, by simp⟩
    rintro c (_ | ⟨_, hc⟩)
    · decide
    · exact hchars c hc

theorem isWide_readByte (hbegun : ∀ b ∈ begun, b.Sound) (hbyte : ¬ byte < 0x80) :
    (readByte begun byte).IsWide := by
  cases begun with
  | none => exact ByteReading.isWide_ofByte hbyte
  | some b => exact (hbegun b rfl).isWide_next hbyte

theorem sound_readByte (hbegun : ∀ b ∈ begun, b.Sound) :
    ∀ b ∈ (readByte begun byte).begun, b.Sound := by
  by_cases hbyte : byte < 0x80
  · simp [readByte_of_lt hbegun hbyte]
  · exact (isWide_readByte hbegun hbyte).sound

/-- Reading starts anew at each byte that is a character of its own. -/
theorem readBytes_append_cons (hbegun : ∀ b ∈ begun, b.Sound) (before after : List UInt8)
    (hbyte : byte < 0x80) :
    readBytes begun (before ++ byte :: after) =
      readBytes begun before ++ Char.ofUInt8 byte :: readBytes none after := by
  induction before generalizing begun with
  | nil =>
    rw [List.nil_append, readBytes, readBytes, readByte_of_lt hbegun hbyte, List.append_assoc]
    rfl
  | cons first before ih =>
    rw [List.cons_append, readBytes, readBytes, ih (sound_readByte hbegun), List.append_assoc]

theorem readBytes_cons_of_lt (hbyte : byte < 0x80) (bytes : List UInt8) :
    readBytes none (byte :: bytes) = Char.ofUInt8 byte :: readBytes none bytes :=
  readBytes_append_cons (by simp) [] bytes hbyte

theorem toUInt8_ofUInt8 (byte : UInt8) : (Char.ofUInt8 byte).toUInt8 = byte :=
  UInt8.toUInt8_toUInt32 byte

theorem toNat_ofUInt8 (byte : UInt8) : (Char.ofUInt8 byte).toNat = byte.toNat :=
  UInt8.toNat_toUInt32 byte

theorem ofUInt8_toUInt8 {c : Char} (hc : c.toNat < 0x100) : Char.ofUInt8 c.toUInt8 = c := by
  have hnat : (Char.ofUInt8 c.toUInt8).toNat = c.toNat := by
    rw [toNat_ofUInt8]
    exact Nat.mod_eq_of_lt hc
  rw [← Char.ofNat_toNat (Char.ofUInt8 _), hnat, Char.ofNat_toNat]

section
variable {n number low high more : Nat}

theorem toNat_ofNat_of_lt (h : n < 0x100) : (UInt8.ofNat n).toNat = n := by
  rw [UInt8.toNat_ofNat']
  omega

theorem readBytes_first {b : BegunChar} (hbegin : BegunChar.ofByte? n = some b) (bytes : List UInt8) :
    readBytes none (UInt8.ofNat n :: bytes) = readBytes (some b) bytes := by
  have hn : 0xC2 ≤ n ∧ n ≤ 0xF4 := by
    unfold BegunChar.ofByte? at hbegin
    split_ifs at hbegin <;> omega
  have hbyte : (UInt8.ofNat n).toNat = n := toNat_ofNat_of_lt (by omega)
  have hwide : ¬ UInt8.ofNat n < 0x80 := by
    rw [UInt8.lt_iff_toNat_lt, hbyte]
    exact Nat.not_lt.2 (Nat.le_trans (by decide) hn.1)
  have hread : readByte none (UInt8.ofNat n) = ⟨[], some b⟩ := by
    show ByteReading.ofByte _ = _
    rw [ByteReading.ofByte, if_neg hwide, hbyte, hbegin]
  rw [readBytes, hread, List.nil_append]

theorem ofByte?_two (hn : 2 ≤ n ∧ n < 0x20) :
    BegunChar.ofByte? (n + 0xC0) = some ⟨n, 0x80, 0xBF, 0⟩ := by
  rw [BegunChar.ofByte?, if_pos (by omega), Nat.add_sub_cancel]

theorem ofByte?_three (hn : n < 0x10) :
    BegunChar.ofByte? (n + 0xE0) =
      some ⟨n, if n = 0x0 then 0xA0 else 0x80, if n = 0xD then 0x9F else 0xBF, 1⟩ := by
  have hlow : (n + 0xE0 = 0xE0) = (n = 0x0) := propext (by omega)
  have hhigh : (n + 0xE0 = 0xED) = (n = 0xD) := propext (by omega)
  rw [BegunChar.ofByte?, if_neg (by omega), if_pos (by omega), Nat.add_sub_cancel]
  simp only [hlow, hhigh]

theorem ofByte?_four (hn : n ≤ 0x4) :
    BegunChar.ofByte? (n + 0xF0) =
      some ⟨n, if n = 0x0 then 0x90 else 0x80, if n = 0x4 then 0x8F else 0xBF, 2⟩ := by
  have hlow : (n + 0xF0 = 0xF0) = (n = 0x0) := propext (by omega)
  have hhigh : (n + 0xF0 = 0xF4) = (n = 0x4) := propext (by omega)
  rw [BegunChar.ofByte?, if_neg (by omega), if_neg (by omega), if_pos (by omega), Nat.add_sub_cancel]
  simp only [hlow, hhigh]

theorem readByte_of_mem (hrange : low ≤ n ∧ n ≤ high) (hn : n < 0x100) :
    readByte (some ⟨number, low, high, more⟩) (UInt8.ofNat n) =
      match more with
      | 0 => ⟨[.ofNat (number * 64 + (n - 0x80))], none⟩
      | more + 1 => ⟨[], some ⟨number * 64 + (n - 0x80), 0x80, 0xBF, more⟩⟩ := by
  show BegunChar.next _ _ = _
  rw [BegunChar.next, toNat_ofNat_of_lt hn, if_pos hrange]
  cases more <;> rfl

theorem readBytes_more (hrange : low ≤ n ∧ n ≤ high) (hn : n < 0x100) (bytes : List UInt8) :
    readBytes (some ⟨number, low, high, more + 1⟩) (UInt8.ofNat n :: bytes) =
      readBytes (some ⟨number * 64 + (n - 0x80), 0x80, 0xBF, more⟩) bytes := by
  rw [readBytes, readByte_of_mem hrange hn, List.nil_append]

theorem readBytes_last (hrange : low ≤ n ∧ n ≤ high) (hn : n < 0x100) (bytes : List UInt8) :
    readBytes (some ⟨number, low, high, 0⟩) (UInt8.ofNat n :: bytes) =
      .ofNat (number * 64 + (n - 0x80)) :: readBytes none bytes := by
  rw [readBytes, readByte_of_mem hrange hn, List.singleton_append]

end

/-- The bytes of a character are read as that character. -/
theorem readBytes_utf8EncodeChar_append (c : Char) (bytes : List UInt8) :
    readBytes none (String.utf8EncodeChar c ++ bytes) = c :: readBytes none bytes := by
  have hvalid : c.val.toNat < 0xD800 ∨ 0xDFFF < c.val.toNat ∧ c.val.toNat < 0x110000 := c.valid
  have hofNat : ∀ n, n = c.val.toNat → Char.ofNat n = c := by
    rintro n rfl
    exact Char.ofNat_toNat c
  unfold String.utf8EncodeChar
  generalize c.val.toNat = v at hvalid hofNat
  dsimp only
  split_ifs with h1 h2 h3
  · have hbyte : (UInt8.ofNat v).toNat = v := toNat_ofNat_of_lt (by omega)
    have hnarrow : UInt8.ofNat v < 0x80 := by
      rw [UInt8.lt_iff_toNat_lt, hbyte]
      exact Nat.lt_succ_of_le h1
    rw [List.singleton_append, readBytes_cons_of_lt hnarrow, ← hofNat v rfl, ← Char.ofNat_toNat (.ofUInt8 _),
      toNat_ofUInt8, hbyte]
  · have hfirst : v / 64 % 0x20 = v / 64 := by omega
    simp only [List.cons_append, List.nil_append]
    rw [hfirst, readBytes_first (ofByte?_two (by omega)), readBytes_last (by omega) (by omega), hofNat]
    omega
  · have hfirst : v / 4096 % 0x10 = v / 4096 := by omega
    simp only [List.cons_append, List.nil_append]
    rw [hfirst, readBytes_first (ofByte?_three (by omega)), readBytes_more _ (by omega),
      readBytes_last (by omega) (by omega), hofNat]
    · omega
    · split_ifs <;> omega
  · have hfirst : v / 262144 % 0x08 = v / 262144 := by omega
    simp only [List.cons_append, List.nil_append]
    rw [hfirst, readBytes_first (ofByte?_four (by omega)), readBytes_more _ (by omega),
      readBytes_more (by omega) (by omega), readBytes_last (by omega) (by omega), hofNat]
    · omega
    · split_ifs <;> omega

theorem readBytes_flatMap_utf8EncodeChar (cs : List Char) :
    readBytes none (cs.flatMap String.utf8EncodeChar) = cs := by
  induction cs with
  | nil => rfl
  | cons c cs ih => rw [List.flatMap_cons, readBytes_utf8EncodeChar_append, ih]

end PotCatalog
