/-
  Digits, and the halves of characters that escapes can name.

  `readDigits` reads a number in a base up to sixteen; `joinSurrogates` joins
  two units of UTF-16 to the character that they stand for.
-/

namespace PotCatalog

/-! ## Digits -/

/-- The value of a digit in a base up to sixteen. -/
def digitValue (base : Nat) (c : Char) : Option Nat :=
  let n := c.toNat
  let value :=
    if '0'.toNat ≤ n && n ≤ '9'.toNat then some (n - '0'.toNat)
    else if 'a'.toNat ≤ n && n ≤ 'f'.toNat then some (n - 'a'.toNat + 10)
    else if 'A'.toNat ≤ n && n ≤ 'F'.toNat then some (n - 'A'.toNat + 10)
    else none
  value.filter (· < base)

/-- The value of a list of digits; none if there is no digit or a character
    is not one. -/
def readDigits (base : Nat) : List Char → Option Nat
  | [] => none
  | cs => cs.foldl (fun acc c => do return (← acc) * base + (← digitValue base c)) (some 0)

/-- Whether a character is an octal digit. -/
def isOctal (c : Char) : Bool := '0' ≤ c && c ≤ '7'

/-! ## Surrogates -/

/-- The character of a surrogate pair. -/
def joinSurrogates (high low : Nat) : Option Char :=
  if 0xD800 ≤ high && high < 0xDC00 && 0xDC00 ≤ low && low < 0xE000 then
    some (Char.ofNat (0x10000 + (high - 0xD800) * 0x400 + (low - 0xDC00)))
  else none

end PotCatalog
