/-
  Strings and numbers in tags.

  * `unescape` decodes the inside of a string: the usual escapes of one letter,
    `\uXXXX` with surrogate pairs joined, `\xXX` and up to three octal digits;
    any other escaped character keeps its backslash;
  * `scanNumber` finds the end of a number, and `readNumber` decides whether it
    is an integer of at most 128 bits, a float, or neither.
-/
import PotCatalog.Text.Cursor
import PotCatalog.Text.Digit
import PotCatalog.Template.Token

namespace PotCatalog.Template

/-! ## Strings -/

/-- A number of a fixed width, which may start with a plus sign. -/
def readFixed (base : Nat) : List Char → Option Nat
  | '+' :: cs => readDigits base cs
  | cs => readDigits base cs

/-- The escapes of one letter. -/
def simpleEscape : Char → Option Char
  | '"' => some '"'
  | '\\' => some '\\'
  | '/' => some '/'
  | '\'' => some '\''
  | 'b' => some '\x08'
  | 'f' => some '\x0c'
  | 'n' => some '\n'
  | 'r' => some '\r'
  | 't' => some '\t'
  | _ => none

/-- Up to two more octal digits, and what follows them. -/
def moreOctal : List Char → List Char × List Char
  | a :: b :: cs =>
    if isOctal a then if isOctal b then ([a, b], cs) else ([a], b :: cs) else ([], a :: b :: cs)
  | [a] => if isOctal a then ([a], []) else ([], [a])
  | [] => ([], [])

/-- What an escape stands for. -/
inductive Escape where
  | text (cs : List Char)
  /-- A unit of UTF-16, written in hexadecimal. -/
  | unit (n : Nat)

/-- Reads the escape behind a backslash: what it stands for, and the rest. -/
def readEscape : List Char → Option (Escape × List Char)
  | [] => none
  | 'u' :: cs =>
    if 4 ≤ cs.length then (readFixed 16 (cs.take 4)).map fun n => (.unit n, cs.drop 4) else none
  | 'x' :: cs =>
    if 2 ≤ cs.length then
      (readFixed 16 (cs.take 2)).map fun n => (.text [Char.ofNat n], cs.drop 2)
    else none
  | c :: cs =>
    if isOctal c then
      let (more, rest) := moreOctal cs
      match readDigits 8 (c :: more) with
      | some n => if n < 256 then some (.text [Char.ofNat n], rest) else none
      | none => none
    else match simpleEscape c with
      | some d => some (.text [d], cs)
      | none => some (.text ['\\', c], cs)

/-- Decodes the inside of a string, given the first half of a surrogate pair
    that waits for its second half.  The first argument bounds the number of
    characters and escapes. -/
def unescapeFrom : Nat → Option Nat → List Char → Option (List Char)
  | _, none, [] => some []
  | _, some _, [] => none
  | 0, _, _ :: _ => none
  | n + 1, pending, '\\' :: cs =>
    match readEscape cs with
    | none => none
    | some (.text t, rest) =>
      match pending with
      | some _ => none
      | none => (unescapeFrom n none rest).map (t ++ ·)
    | some (.unit u, rest) =>
      match pending with
      | none =>
        if 0xD800 ≤ u && u < 0xE000 then unescapeFrom n (some u) rest
        else (unescapeFrom n none rest).map (Char.ofNat u :: ·)
      | some high =>
        match joinSurrogates high u with
        | none => none
        | some c => (unescapeFrom n none rest).map (c :: ·)
  | n + 1, none, c :: cs => (unescapeFrom n none cs).map (c :: ·)
  | _ + 1, some _, _ :: _ => none

/-- Decodes the inside of a string. -/
def unescape (cs : List Char) : Option (List Char) := unescapeFrom cs.length none cs

/-- The inside of a string up to the delimiter that closes it, and the rest
    behind that delimiter.  A backslash takes the next character with it. -/
def cutString (delimiter : Char) : List Char → Option (List Char × List Char)
  | [] => none
  | '\\' :: c :: cs =>
    (cutString delimiter cs).map fun (inside, rest) => ('\\' :: c :: inside, rest)
  | c :: cs =>
    if c == delimiter then some ([], cs)
    else if c == '\\' then none
    else (cutString delimiter cs).map fun (inside, rest) => (c :: inside, rest)

/-! ## Numbers -/

/-- The part of a number that is being read. -/
inductive NumberPart where
  /-- Digits behind `0b`, `0o` or `0x`. -/
  | radix
  | integer
  | fraction
  /-- Directly behind the `e`. -/
  | exponent
  /-- Behind the sign or the first digit of the exponent. -/
  | power
  deriving DecidableEq, Repr

/-- Whether an identifier can start with this character. -/
def isIdentifierStart (c : Char) : Bool := c.isAlpha || c == '_'

/-- Whether an identifier can go on with this character. -/
def isIdentifierPart (c : Char) : Bool := c.isAlphanum || c == '_'

/-- Whether a point behind an integer starts a fraction: it does not if a name
    follows, except for the letter of an exponent. -/
def startsFraction : List Char → Bool
  | 'e' :: c :: _ | 'E' :: c :: _ => c.isDigit || c == '+' || c == '-'
  | c :: _ => !isIdentifierStart c
  | [] => true

/-- The part that a further character of a number leads to. -/
def NumberPart.next (base : Nat) (part : NumberPart) (c : Char) (rest : List Char) :
    Option NumberPart :=
  if c.isDigit then some (if part = .exponent then .power else part)
  else if c == '_' then some part
  else match part with
    | .radix => if base == 16 && (digitValue 16 c).isSome then some .radix else none
    | .integer =>
      if c == '.' && startsFraction rest then some .fraction
      else if c == 'e' || c == 'E' then some .exponent
      else none
    | .fraction => if c == 'e' || c == 'E' then some .exponent else none
    | .exponent => if c == '+' || c == '-' then some .power else none
    | .power => none

/-- The characters of a number, the part it ends in, and the rest. -/
def scanNumber (base : Nat) (part : NumberPart) : List Char → List Char × NumberPart × List Char
  | [] => ([], part, [])
  | c :: cs =>
    match part.next base c cs with
    | none => ([], part, c :: cs)
    | some part' =>
      let (taken, last, rest) := scanNumber base part' cs
      (c :: taken, last, rest)

/-- The token of a number, given the characters behind the mark of its base. -/
def readNumber (base : Nat) (part : NumberPart) (taken : List Char) : Except Fault Token :=
  if taken.getLast? = some '_' then .error .trailingUnderscore
  else
    let digits := taken.filter (· != '_')
    match part with
    | .radix | .integer =>
      match readDigits base digits with
      | some n => if n < Nat.pow 2 128 then .ok (.integer n) else .error .badInteger
      | none => .error .badInteger
    | .fraction => .ok .float
    | .exponent | .power =>
      if (digits.getLast?.map Char.isDigit).getD false then .ok .float else .error .badFloat

end PotCatalog.Template
