/-
  Words, strings, templates, numbers and regular expressions in scripts.

  Each scanner starts at the first character of its token and yields a
  `Reading`: the token, the place behind it, and the notices that do not stop
  the parsing.  What an escape means is decided in `readEscape` alone.  The
  number of characters of the whole script, `size`, bounds the steps of a
  scanner.
-/
import PotCatalog.Text.Identifier
import PotCatalog.Text.Lines
import PotCatalog.Script.Token

namespace PotCatalog.Script

/-! ## Notices -/

/-- The code in which a notice counts. -/
inductive Scope where
  | everywhere
  | strictCode
  | moduleCode
  deriving DecidableEq, Repr

/-- A failure that does not stop the parsing. -/
structure Notice where
  scope : Scope
  failure : Failure
  deriving DecidableEq, Repr

/-- A token, the place behind it, and the notices on it. -/
structure Reading where
  token : Token
  after : Cursor
  notices : List Notice

/-- Characters that form no token. -/
def Reading.invalid (fault : Fault) (offset : Nat) (after : Cursor) (notices : List Notice) :
    Reading :=
  ⟨.invalid ⟨fault, offset⟩, after, notices⟩

/-! ## Words -/

/-- Whether a name can start with a character. -/
def isNameStart (c : Char) : Bool :=
  if c.toNat < 128 then c.isAlpha || c == '$' || c == '_' else isIdStart c

/-- Whether a name can go on with a character: also with a digit, or with a
    character that joins its neighbours or keeps them apart. -/
def isNamePart (c : Char) : Bool :=
  if c.toNat < 128 then c.isAlphanum || c == '$' || c == '_'
  else c.toNat == 0x200C || c.toNat == 0x200D || isIdPart c

/-- Reads four hexadecimal digits. -/
def readFour (cs : List Char) : Option Nat :=
  if (cs.take 4).length = 4 then readDigits 16 (cs.take 4) else none

/-- Reads the code point behind `\u`: its value and the number of characters
    it takes. -/
def readCodePoint : List Char → Except Fault (Nat × Nat)
  | '{' :: cs =>
    let digits := cs.takeWhile fun c => (digitValue 16 c).isSome
    match readDigits 16 digits with
    | none => .error (.badEscape "1-6 hex characters")
    | some n =>
      if 0x10FFFF < n then
        .error (.badEscape "1-6 hex characters in the range 0 to 10FFFF.")
      else if cs[digits.length]? = some '}' then .ok (n, digits.length + 2)
      else .error .openEscape
  | cs =>
    match readFour cs with
    | some n => .ok (n, 4)
    | none => .error (.badEscape "4 hex characters")

/-- Reads the characters of a word, its escapes decoded; `first` tells that
    nothing was read before.  The first argument bounds the characters. -/
def readWord : Nat → Bool → Cursor → Except Failure (List Char × Bool × Cursor)
  | 0, _, cursor => .ok ([], false, cursor)
  | n + 1, first, cursor =>
    let allowed := if first then isNameStart else isNamePart
    match cursor.rest with
    | [] => .ok ([], false, cursor)
    | '\\' :: 'u' :: cs =>
      match readCodePoint cs with
      | .error fault => .error ⟨fault, cursor.offset⟩
      | .ok (value, length) =>
        match CodePoints.character? value with
        | none => .error ⟨.badNameCharacter, cursor.offset⟩
        | some c =>
          if allowed c then
            match readWord n false (cursor.skip (2 + length)) with
            | .error failure => .error failure
            | .ok (rest, _, after) => .ok (c :: rest, true, after)
          else .error ⟨.badNameCharacter, cursor.offset⟩
    | '\\' :: _ => .error ⟨.noUnicodeEscape, cursor.offset⟩
    | c :: _ =>
      if allowed c then
        match readWord n false cursor.advance with
        | .error failure => .error failure
        | .ok (rest, escaped, after) => .ok (c :: rest, escaped, after)
      else .ok ([], false, cursor)

/-- Reads a word.  A keyword must be written without escapes. -/
def scanWord (size : Nat) (cursor : Cursor) : Reading :=
  match readWord (size + 1) true cursor with
  | .error ⟨fault, offset⟩ => .invalid fault offset (cursor.advance.skipWhile isNamePart) []
  | .ok (cs, escaped, after) =>
    let word := String.ofList cs
    if escaped && isKeyword word then .invalid (.escapedWord word) cursor.offset after []
    else ⟨.word word, after, []⟩

/-! ## Escapes -/

/-- The characters that end a line. -/
def isLineEnd (c : Char) : Bool :=
  c == '\n' || c == '\r' || c.toNat == 0x2028 || c.toNat == 0x2029

/-- The escapes of one letter. -/
def letterEscape? : Char → Option Nat
  | 'n' => some 0xA
  | 'r' => some 0xD
  | 't' => some 0x9
  | 'b' => some 0x8
  | 'v' => some 0xB
  | 'f' => some 0xC
  | _ => none

/-- The octal digits of an escape: at most three, and not beyond 255. -/
def octalDigits (cs : List Char) : List Char :=
  let digits := (cs.take 3).takeWhile isOctal
  match readDigits 8 digits with
  | some n => if n < 256 then digits else digits.take 2
  | none => digits

/-- What an escape yields: code points, the number of characters it takes, and
    whether it is written in octal. -/
structure Escape where
  value : CodePoints
  length : Nat
  octal : Bool

/-- The escape of a code point.  Behind the first half of a surrogate pair the
    next escape, if there is one, has to have four digits. -/
def readCodePointEscape (cs : List Char) : Except Fault Escape :=
  match readCodePoint cs with
  | .error fault => .error fault
  | .ok (value, length) =>
    let paired := 0xD800 ≤ value && value < 0xDC00 && cs.head? != some '{'
    match paired, cs.drop length with
    | true, '\\' :: 'u' :: more =>
      match readFour more with
      | some _ => .ok ⟨[value], length + 2, false⟩
      | none => .error (.badEscape "4 hex characters")
    | _, _ => .ok ⟨[value], length + 2, false⟩

/-- Reads the escape that a backslash starts; `cs` is what follows it. -/
def readEscape : List Char → Except Fault Escape
  | [] => .error .textEscape
  | 'x' :: cs =>
    match if (cs.take 2).length = 2 then readDigits 16 (cs.take 2) else none with
    | some n => .ok ⟨[n], 4, false⟩
    | none => .error (.badEscape "2 hex characters")
  | 'u' :: cs => readCodePointEscape cs
  | '\r' :: '\n' :: _ => .ok ⟨[], 3, false⟩
  | c :: cs =>
    if isLineEnd c then .ok ⟨[], 2, false⟩
    else if c == '0' && !(cs.head?.map isOctal).getD false then .ok ⟨[0], 2, false⟩
    else if isOctal c then
      let digits := octalDigits (c :: cs)
      .ok ⟨[(readDigits 8 digits).getD 0], digits.length + 1, true⟩
    else .ok ⟨[(letterEscape? c).getD c.toNat], 2, false⟩

/-! ## Strings and templates -/

/-- Reads the inside of a string that starts at `start`, up to behind the
    quote.  A string that is not closed ends with its line.  The first argument
    bounds the characters. -/
def readText (quote : Char) (start : Nat) :
    Nat → Cursor → Except (Failure × Cursor) (CodePoints × List Notice × Cursor)
  | 0, cursor => .ok ([], [], cursor)
  | n + 1, cursor =>
    match cursor.rest with
    | [] => .ok ([], [⟨.everywhere, ⟨.unterminatedText, start⟩⟩], cursor)
    | '\\' :: cs =>
      match readEscape cs with
      | .error fault => .error (⟨fault, cursor.offset⟩, cursor.skip 2)
      | .ok escape =>
        match readText quote start n (cursor.skip escape.length) with
        | .error failure => .error failure
        | .ok (value, notices, after) =>
          let octal : List Notice :=
            if escape.octal then [⟨.strictCode, ⟨.legacyOctal, cursor.offset⟩⟩] else []
          .ok (escape.value ++ value, octal ++ notices, after)
    | c :: _ =>
      if c == quote then .ok ([], [], cursor.advance)
      else if c == '\n' || c == '\r' then
        .ok ([], [⟨.everywhere, ⟨.unterminatedText, start⟩⟩], cursor)
      else
        match readText quote start n cursor.advance with
        | .error failure => .error failure
        | .ok (value, notices, after) => .ok (c.toNat :: value, notices, after)

/-- Reads a string. -/
def scanText (size : Nat) (quote : Char) (cursor : Cursor) : Reading :=
  let inside := cursor.advance
  match readText quote cursor.offset (size + 1) inside with
  | .error (⟨fault, offset⟩, after) => .invalid fault offset after []
  | .ok (value, notices, after) =>
    let written := takeBytes (after.offset - inside.offset - 1) inside.rest
    ⟨.text value (String.ofList written), after, notices⟩

/-- Reads a part of a template behind the sign that opens it: whether the
    template ends there, its first bad escape, and the place behind it; none if
    the template is not closed.  The first argument bounds the characters. -/
def readTemplate : Nat → Option Failure → Cursor → Option (Bool × Option Failure × Cursor)
  | 0, _, _ => none
  | n + 1, bad, cursor =>
    match cursor.rest with
    | [] => none
    | '\x60' :: _ => some (true, bad, cursor.advance)
    | '$' :: '{' :: _ => some (false, bad, cursor.skip 2)
    | '\\' :: cs =>
      match readEscape cs with
      | .error fault => readTemplate n (bad <|> some ⟨fault, cursor.offset⟩) (cursor.skip 2)
      | .ok escape =>
        let octal := if escape.octal then some ⟨.legacyOctal, cursor.offset⟩ else none
        readTemplate n (bad <|> octal) (cursor.skip escape.length)
    | _ :: _ => readTemplate n bad cursor.advance

/-- Reads a part of a template from the sign that opens it: a backquote, or the
    brace that closes a substitution. -/
def scanTemplate (size : Nat) (cursor : Cursor) : Reading :=
  match readTemplate (size + 1) none cursor.advance with
  | none => .invalid .unterminatedTemplate cursor.offset cursor.toEnd []
  | some (last, bad, after) => ⟨.template last bad, after, []⟩

/-! ## Numbers -/

/-- The bases that a number can name: its mark, the base, and the kind of
    digit that messages ask for. -/
def radix? : Char → Option (Nat × String)
  | 'x' | 'X' => some (16, "a hexadecimal")
  | 'o' | 'O' => some (8, "an octal")
  | 'b' | 'B' => some (2, "a binary")
  | _ => none

/-- Whether every underscore stands between two digits; `digit` tells that a
    digit came before. -/
def separatesDigits (digit : Bool) : List Char → Bool
  | [] => true
  | ['_'] => false
  | '_' :: c :: cs => digit && c != '_' && separatesDigits true (c :: cs)
  | _ :: cs => separatesDigits true cs

/-- A run of digits in a base, with the underscores between them. -/
def digitRun (base : Nat) (cursor : Cursor) : List Char :=
  cursor.run fun c => c == '_' || (digitValue base c).isSome

/-- The notice on a run of digits with an underscore in a wrong place. -/
def separatorNotices (start : Nat) (digits : List Char) : List Notice :=
  if separatesDigits false digits then [] else [⟨.everywhere, ⟨.digitSeparator, start⟩⟩]

/-- A number, unless a name follows it directly. -/
def endNumber (token : Token) (after : Cursor) (notices : List Notice) : Reading :=
  match after.rest with
  | c :: _ =>
    if isNameStart c || c == '\\' then .invalid .nameAfterNumber after.offset after notices
    else ⟨token, after, notices⟩
  | [] => ⟨token, after, notices⟩

/-- A whole number, which the letter `n` makes a big one. -/
def endInteger (after : Cursor) (notices : List Notice) : Reading :=
  if after.peek = some 'n' then endNumber .bigInteger after.advance notices
  else endNumber .number after notices

/-- Reads the exponent of a number, if there is one, and ends the number. -/
def scanExponent (start : Nat) (cursor : Cursor) (notices : List Notice) : Reading :=
  match cursor.rest with
  | e :: cs =>
    if e == 'e' || e == 'E' then
      if cs.isEmpty then .invalid .noExponent cursor.advance.offset cursor.advance notices
      else
        let signed := (cs.head?.map fun c => c == '+' || c == '-').getD false
        let digitsAt := cursor.skip (if signed then 2 else 1)
        let digits := digitRun 10 digitsAt
        if digits.isEmpty then
          .invalid (.noDigit "a decimal") digitsAt.offset digitsAt notices
        else
          endNumber .number (digitsAt.skip digits.length)
            (notices ++ separatorNotices start digits)
    else endNumber .number cursor notices
  | [] => endNumber .number cursor notices

/-- Reads the fraction and the exponent of a number. -/
def scanFraction (start : Nat) (cursor : Cursor) (notices : List Notice) : Reading :=
  if cursor.peek = some '.' then
    let digits := digitRun 10 cursor.advance
    scanExponent start (cursor.advance.skip digits.length)
      (notices ++ separatorNotices start digits)
  else scanExponent start cursor notices

/-- Reads a number that starts with a zero and goes on with a digit: it is
    octal unless one of its digits is not. -/
def scanLegacy (cursor : Cursor) : Reading :=
  let digits := digitRun 10 cursor
  let after := cursor.skip digits.length
  let notices := separatorNotices cursor.offset digits
  if digits.all fun c => c == '_' || isOctal c then
    endNumber .number after (notices ++ [⟨.strictCode, ⟨.legacyOctal, cursor.offset⟩⟩])
  else
    scanFraction cursor.offset after
      (notices ++ [⟨.strictCode, ⟨.legacyDecimal, cursor.offset⟩⟩])

/-- Reads a number. -/
def scanNumber (cursor : Cursor) : Reading :=
  let start := cursor.offset
  let decimal :=
    let digits := digitRun 10 cursor
    let after := cursor.skip digits.length
    let notices := separatorNotices start digits
    if after.peek = some 'n' then endInteger after notices
    else scanFraction start after notices
  match cursor.rest with
  | '0' :: c :: _ =>
    match radix? c with
    | some (base, kind) =>
      let digitsAt := cursor.skip 2
      let digits := digitRun base digitsAt
      if digits.isEmpty then .invalid (.noDigit kind) digitsAt.offset digitsAt []
      else endInteger (digitsAt.skip digits.length) (separatorNotices start digits)
    | none => if c.isDigit then scanLegacy cursor else decimal
  | _ => decimal

/-! ## Regular expressions -/

/-- The length of the body of a regular expression; none if it is not closed
    on its line.  `inClass` tells that a class of characters is open, and
    `escaped` that a backslash came before. -/
def patternLength (inClass escaped : Bool) : List Char → Option Nat
  | [] => none
  | c :: cs =>
    if isLineEnd c then none
    else if escaped then (patternLength inClass false cs).map (· + 1)
    else if c == '/' && !inClass then some 0
    else
      let opened := if c == '[' then true else if c == ']' then false else inClass
      (patternLength opened (c == '\\') cs).map (· + 1)

/-- The first character that occurs again. -/
def firstRepeated? : List Char → Option Char
  | [] => none
  | c :: cs => if cs.contains c then some c else firstRepeated? cs

/-- The notices on the flags of a regular expression. -/
def flagNotices (start : Nat) (flags : List Char) : List Notice :=
  let unknown : List Notice :=
    if flags.all "dgimsuvy".toList.contains then [] else [⟨.everywhere, ⟨.unknownFlags, start⟩⟩]
  match firstRepeated? flags with
  | some flag => unknown ++ [⟨.everywhere, ⟨.repeatedFlag flag, start⟩⟩]
  | none => unknown

/-- Reads a regular expression from its first slash. -/
def scanPattern (cursor : Cursor) : Reading :=
  match patternLength false false cursor.advance.rest with
  | none => .invalid .unterminatedPattern cursor.offset cursor.toEnd []
  | some length =>
    let behind := cursor.skip (length + 2)
    let flags := behind.run isNamePart
    ⟨.pattern, behind.skip flags.length, flagNotices cursor.offset flags⟩

end PotCatalog.Script
