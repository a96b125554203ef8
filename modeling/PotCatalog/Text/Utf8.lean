/-
  Bytes and texts.

  The bytes of a text are those of its characters in UTF-8 (`bytesOf`).  All bytes
  can be read as a text (`textOf`), also if they are not those of a text: a
  replacement character stands for a byte that begins no character, and for the
  bytes of a character that breaks off.  Reading goes on at the byte that does not
  belong to the character.
-/

namespace PotCatalog

/-- The bytes of a text in UTF-8. -/
def bytesOf (text : String) : List UInt8 := text.toUTF8.data.toList

theorem bytesOf_eq_flatMap (text : String) :
    bytesOf text = text.toList.flatMap String.utf8EncodeChar := by
  conv => lhs; rw [← String.ofList_toList (s := text)]
  rw [bytesOf, String.toUTF8_eq_toByteArray, String.toByteArray_ofList, List.utf8Encode]
  simp

/-- Stands for bytes that are no character. -/
def replacementChar : Char := '\uFFFD'

/-- A character of which the first bytes are read. -/
structure BegunChar where
  /-- The number that these bytes spell. -/
  number : Nat
  /-- The least and the greatest byte that can come next. -/
  low : Nat
  high : Nat
  /-- How many bytes come behind the next one. -/
  more : Nat
  deriving DecidableEq, Repr

namespace BegunChar

/-- The character of several bytes that a byte begins.  Numbers that fewer bytes
    can spell, and those that are no characters, are ruled out by the range of the
    second byte. -/
def ofByte? (byte : Nat) : Option BegunChar :=
  if 0xC2 ≤ byte ∧ byte ≤ 0xDF then some ⟨byte - 0xC0, 0x80, 0xBF, 0⟩
  else if 0xE0 ≤ byte ∧ byte ≤ 0xEF then
    some ⟨byte - 0xE0, if byte = 0xE0 then 0xA0 else 0x80, if byte = 0xED then 0x9F else 0xBF, 1⟩
  else if 0xF0 ≤ byte ∧ byte ≤ 0xF4 then
    some ⟨byte - 0xF0, if byte = 0xF0 then 0x90 else 0x80, if byte = 0xF4 then 0x8F else 0xBF, 2⟩
  else none

/-- The number with the digit of one more byte. -/
def extended (begun : BegunChar) (byte : Nat) : Nat := begun.number * 64 + (byte - 0x80)

end BegunChar

/-- What is read at a byte: characters, and one that is begun. -/
structure ByteReading where
  chars : List Char
  begun : Option BegunChar
  deriving DecidableEq, Repr

/-- What is read at a byte where no character is begun. -/
def ByteReading.ofByte (byte : UInt8) : ByteReading :=
  if byte < 0x80 then ⟨[.ofUInt8 byte], none⟩
  else match BegunChar.ofByte? byte.toNat with
    | some begun => ⟨[], some begun⟩
    | none => ⟨[replacementChar], none⟩

/-- What is read at a byte behind a character that is begun. -/
def BegunChar.next (begun : BegunChar) (byte : UInt8) : ByteReading :=
  if begun.low ≤ byte.toNat ∧ byte.toNat ≤ begun.high then
    match begun.more with
    | 0 => ⟨[.ofNat (begun.extended byte.toNat)], none⟩
    | more + 1 => ⟨[], some ⟨begun.extended byte.toNat, 0x80, 0xBF, more⟩⟩
  else
    let reading := ByteReading.ofByte byte
    ⟨replacementChar :: reading.chars, reading.begun⟩

/-- What is read at a byte behind a character that is begun, if any. -/
def readByte (begun : Option BegunChar) (byte : UInt8) : ByteReading :=
  begun.elim (.ofByte byte) (·.next byte)

/-- What stands for a character that breaks off, if any is begun. -/
def brokenOff (begun : Option BegunChar) : List Char := begun.toList.map fun _ => replacementChar

/-- The characters that are read from bytes behind a character that is begun, if
    any. -/
def readBytes : Option BegunChar → List UInt8 → List Char
  | begun, [] => brokenOff begun
  | begun, byte :: bytes =>
    (readByte begun byte).chars ++ readBytes (readByte begun byte).begun bytes

/-- Bytes as a text. -/
def textOf (bytes : List UInt8) : String := String.ofList (readBytes none bytes)

end PotCatalog
