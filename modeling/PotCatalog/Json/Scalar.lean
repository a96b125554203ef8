/-
  Strings, numbers and words in JSON.

  Each of them can be read or skipped.  What is skipped is looked at less
  closely: a skipped string may hold halves of surrogate pairs, and a skipped
  number may have any size.
-/
import PotCatalog.Json.Reader
import PotCatalog.Text.Cursor
import PotCatalog.Text.Digit

namespace PotCatalog.Json

open Reader

/-! ## Words -/

/-- Moves over the rest of a word. -/
def readWord : List Char → Reader Unit
  | [] => return
  | wanted :: rest => do
    match ← peek with
    | none => failHere .endInValue
    | some c =>
      if c = wanted then
        bump
        readWord rest
      else failAhead .expectedWord

/-! ## Strings -/

/-- The character that a letter behind a backslash stands for. -/
def simpleEscape : Char → Option Char
  | '"' => some '"'
  | '\\' => some '\\'
  | '/' => some '/'
  | 'b' => some '\x08'
  | 'f' => some '\x0c'
  | 'n' => some '\n'
  | 'r' => some '\r'
  | 't' => some '\t'
  | _ => none

/-- The unit that four hexadecimal digits stand for. -/
def readUnit : Reader Nat := do
  let rest := (← get).rest
  if utf8Length rest < 4 then failAfter 4 .endInString
  else
    let digits := rest.take 4
    match readDigits 16 digits with
    | some unit =>
      bumpOver 4
      return unit
    | none => failAfter 4 .invalidEscape

/-- Moves over a character inside an escape that names the second half of a
    pair. -/
def readPairMark (wanted : Char) : Reader Unit := do
  match ← peek with
  | none => failHere .endInString
  | some c => if c = wanted then bump else failAhead .unpairedSurrogate

/-- The character of an escape with digits. -/
def readUnicodeEscape : Reader Char := do
  let high ← readUnit
  if 0xDC00 ≤ high && high < 0xE000 then failHere .loneSurrogate
  else if high < 0xD800 || 0xE000 ≤ high then return Char.ofNat high
  else
    readPairMark '\\'
    readPairMark 'u'
    let low ← readUnit
    match joinSurrogates high low with
    | some c => return c
    | none => failHere .loneSurrogate

/-- The character of an escape, behind the backslash. -/
def readEscape : Reader Char := do
  match ← peek with
  | none => failHere .endInString
  | some 'u' =>
    bump
    readUnicodeEscape
  | some c =>
    match simpleEscape c with
    | some meant =>
      bump
      return meant
    | none => failAhead .invalidEscape

/-- The characters of a string up to its closing quote, in at most `fuel`
    steps. -/
def readCharacters : Nat → Reader (List Char)
  | 0 => failHere .endInString
  | fuel + 1 => do
    match ← peek with
    | none => failHere .endInString
    | some '"' =>
      bump
      return []
    | some '\\' =>
      bump
      let c ← readEscape
      return c :: (← readCharacters fuel)
    | some c =>
      if c < ' ' then failAhead .controlCharacter
      else
        bump
        return c :: (← readCharacters fuel)

/-- A string, behind its opening quote. -/
def readString : Reader String := do
  return String.ofList (← readCharacters ((← get).rest.length + 1))

/-- Moves over an escape, behind the backslash. -/
def skipEscape : Reader Unit := do
  match ← peek with
  | none => failHere .endInString
  | some 'u' =>
    bump
    let _ ← readUnit
  | some c => if (simpleEscape c).isSome then bump else failAhead .invalidEscape

/-- Moves over the characters of a string and its closing quote, in at most
    `fuel` steps. -/
def skipCharacters : Nat → Reader Unit
  | 0 => failHere .endInString
  | fuel + 1 => do
    match ← peek with
    | none => failHere .endInString
    | some '"' => bump
    | some '\\' =>
      bump
      skipEscape
      skipCharacters fuel
    | some c =>
      if c < ' ' then failHere .controlCharacter
      else
        bump
        skipCharacters fuel

/-- Moves over a string, behind its opening quote. -/
def skipString : Reader Unit := do skipCharacters ((← get).rest.length + 1)

/-! ## Numbers -/

/-- Whether a character is a decimal digit. -/
def isDecimal (c : Char) : Bool := '0' ≤ c && c ≤ '9'

/-- Whether a character starts an exponent. -/
def isExponentMark (c : Option Char) : Bool := c == some 'e' || c == some 'E'

/-- Moves over a sign; yields whether it was a minus. -/
def readSign : Reader Bool := do
  match ← peek with
  | some '+' =>
    bump
    return false
  | some '-' =>
    bump
    return true
  | _ => return false

/-- Adds as many digits to a number as 64 bits can hold; yields the number and
    the digits left over. -/
def addDigits (n : Nat) : List Char → Nat × List Char
  | [] => (n, [])
  | c :: cs =>
    let next := n * 10 + (c.toNat - '0'.toNat)
    if next < Nat.pow 2 64 then addDigits next cs else (n, c :: cs)

/-- The digits of an exponent up to the first that makes it too large for 31
    bits; yields the exponent, or none if there is such a digit. -/
def readExponentDigits (n : Nat) : List Char → Reader (Option Nat)
  | [] => return some n
  | c :: cs => do
    bump
    let next := n * 10 + (c.toNat - '0'.toNat)
    if next < Nat.pow 2 31 then readExponentDigits next cs else return none

/-- A number with a fraction or an exponent. -/
def floatGiven (isNegative : Bool) (digits : Nat) (power : Int) : Reader Given := do
  match Binary64.ofDecimal digits power with
  | some size => return .floating isNegative size
  | none => failHere .numberOutOfRange

/-- Zero, for exponents that are too small to be written. -/
def zeroGiven (isNegative : Bool) : Given := .floating isNegative ⟨0, Binary64.minExponent⟩

/-- An exponent, and the number that it completes. -/
def readExponent (isNegative : Bool) (digits : Nat) (power : Int) : Reader Given := do
  bump
  let isSmall ← readSign
  match ← peek with
  | none => failHere .endInValue
  | some c =>
    if !isDecimal c then failAhead .invalidNumber
    else
      match ← readExponentDigits 0 ((← get).rest.takeWhile isDecimal) with
      | some e => floatGiven isNegative digits (if isSmall then power - e else power + e)
      | none =>
        if digits ≠ 0 && !isSmall then failHere .numberOutOfRange
        else
          let _ ← run isDecimal
          return zeroGiven isNegative

/-- The digits behind a point, and the number that they complete.  Digits that
    64 bits cannot hold are left out. -/
def readFraction (isNegative : Bool) (digits : Nat) (power : Int) : Reader Given := do
  bump
  let fraction ← run isDecimal
  if fraction.isEmpty then
    match ← peek with
    | none => failHere .endInValue
    | some _ => failAhead .invalidNumber
  else
    let (digits, left) := addDigits digits fraction
    let power := power - (fraction.length - left.length : Nat)
    if isExponentMark (← peek) then readExponent isNegative digits power
    else floatGiven isNegative digits power

/-- A number whose sign and digits were read, as it stands where something else
    is wanted.  A number that 64 bits cannot hold is a floating one, and so is a
    negative zero. -/
def finishNumber (isNegative : Bool) (digits : Nat) (power : Nat) : Reader Given := do
  let next ← peek
  if next = some '.' then readFraction isNegative digits power
  else if isExponentMark next then readExponent isNegative digits power
  else if power ≠ 0 then floatGiven isNegative digits power
  else if !isNegative then return .integer digits
  else if digits = 0 || Nat.pow 2 63 < digits then floatGiven true digits 0
  else return .integer (-digits)

/-- A number, behind its sign. -/
def readNumber (isNegative : Bool) : Reader Given := do
  match ← peek with
  | none => failHere .endInValue
  | some '0' =>
    bump
    match ← peek with
    | some c => if isDecimal c then failAhead .invalidNumber else finishNumber isNegative 0 0
    | none => finishNumber isNegative 0 0
  | some c =>
    if !isDecimal c then failAhead .invalidNumber
    else
      let (digits, left) := addDigits 0 (← run isDecimal)
      finishNumber isNegative digits left.length

/-- Moves over an exponent. -/
def skipExponent : Reader Unit := do
  bump
  let _ ← readSign
  match ← peek with
  | none => failHere .invalidNumber
  | some c =>
    if isDecimal c then
      let _ ← run isDecimal
    else failAhead .invalidNumber

/-- Moves over what may follow the whole part of a number. -/
def skipFraction : Reader Unit := do
  let next ← peek
  if next = some '.' then
    bump
    if (← run isDecimal).isEmpty then failAhead .invalidNumber
    else if isExponentMark (← peek) then skipExponent
  else if isExponentMark next then skipExponent

/-- Moves over a number, behind its sign. -/
def skipNumber : Reader Unit := do
  match ← peek with
  | none => failHere .invalidNumber
  | some '0' =>
    bump
    match ← peek with
    | some c => if isDecimal c then failAhead .invalidNumber else skipFraction
    | none => return
  | some c =>
    if isDecimal c then
      let _ ← run isDecimal
      skipFraction
    else failAhead .invalidNumber

end PotCatalog.Json
