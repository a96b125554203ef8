/-
  A template as a list of tokens.

  Outside of tags a text runs up to the next opening delimiter.  Inside, blanks
  separate tokens, and the closing delimiter counts only while as many brackets
  are closed as were opened.  A minus sign at a delimiter removes the blanks on
  its outer side.

  `scan` cuts a whole text.  It stops at the first lexical fault, which stands
  behind the tokens before it: a parser meets it only when it gets there.
-/
import PotCatalog.Text.Blank
import PotCatalog.Template.Literal

namespace PotCatalog.Template

/-! ## Delimiters -/

/-- The kinds of tags. -/
inductive Tag where
  | variable
  | block
  | comment
  deriving DecidableEq, Repr

/-- The kind of the tag that opens here. -/
def opening? : List Char → Option Tag
  | '{' :: '{' :: _ => some .variable
  | '{' :: '%' :: _ => some .block
  | '{' :: '#' :: _ => some .comment
  | _ => none

/-- The text before the next tag, and what starts with that tag. -/
def cutData : List Char → List Char × List Char
  | [] => ([], [])
  | c :: cs =>
    if (opening? (c :: cs)).isSome then ([], c :: cs)
    else
      let (data, rest) := cutData cs
      (c :: data, rest)

/-- Whether a delimiter carries a sign: a minus or a plus. -/
def isSign (c : Char) : Bool := c == '-' || c == '+'

/-- The length of an opening delimiter with its sign. -/
def openingLength (text : List Char) : Nat :=
  match text[2]? with
  | some c => if isSign c then 3 else 2
  | none => 2

/-- Whether a closing delimiter comes next: its length, and whether it removes
    the blanks behind it. -/
def closing? (delimiter text : List Char) : Option (Nat × Bool) :=
  match text with
  | c :: cs =>
    if isSign c && delimiter.isPrefixOf cs then some (delimiter.length + 1, c == '-')
    else if delimiter.isPrefixOf text then some (delimiter.length, false)
    else none
  | [] => none

/-- The text before the first occurrence of a word, and what starts with it. -/
def cutAt (word : List Char) : List Char → Option (List Char × List Char)
  | [] => if word.isEmpty then some ([], []) else none
  | c :: cs =>
    if word.isPrefixOf (c :: cs) then some ([], c :: cs)
    else (cutAt word cs).map fun (before, rest) => (c :: before, rest)

/-- Moves behind a closing delimiter, over the blanks it removes. -/
def behind (c : Cursor) (length : Nat) (trims : Bool) : Cursor :=
  let c := c.skip length
  if trims then c.skipWhile isBlank else c

/-- A block tag that holds one word only, read behind its opening delimiter:
    its length, and whether it removes the blanks behind it. -/
def wordTag? (word text : List Char) : Option (Nat × Bool) :=
  let inner := text.dropWhile isAsciiBlank
  if word.isPrefixOf inner then
    let tail := (inner.drop word.length).dropWhile isAsciiBlank
    match closing? ['%', '}'] tail with
    | some (length, trims) => some (text.length - tail.length + length, trims)
    | none => none
  else none

/-- The body of a raw block: its text, and the length of the body together with
    the tag that ends it, and whether that tag removes blanks behind it. -/
def cutRaw : List Char → Option (List Char × Nat × Bool)
  | [] => none
  | c :: cs =>
    let tag? : Option (List Char × Nat × Bool) :=
      if opening? (c :: cs) = some .block then
        let n := openingLength (c :: cs)
        (wordTag? "endraw".toList ((c :: cs).drop n)).map fun (length, trims) =>
          ([], n + length, trims)
      else none
    match tag? with
    | some found => some found
    | none => (cutRaw cs).map fun (body, length, trims) => (c :: body, length + 1, trims)

/-! ## One token -/

/-- Where a scanner stands: outside of tags, or in one. -/
inductive Place where
  | outside
  | variable
  | block
  deriving DecidableEq, Repr

/-- What one step of the scanner yields. -/
inductive Step where
  /-- The end of the text. -/
  | finish
  | fail (fault : Fault) (offset : Option Nat)
  /-- Something that is no token. -/
  | skip (place : Place) (c : Cursor)
  | emit (token : Token) (start : Nat) (place : Place) (c : Cursor)

/-- The step at an opening delimiter. -/
def openTag (tag : Tag) (c : Cursor) : Step :=
  let inside := c.skip (openingLength c.rest)
  match tag with
  | .variable => .emit .variableStart c.offset .variable inside
  | .comment =>
    match cutAt ['#', '}'] inside.rest with
    | none => .fail .openComment c.toEnd.offset
    | some (body, _) => .skip .outside (behind (inside.skip body.length) 2 (body.getLast? = some '-'))
  | .block =>
    match wordTag? "raw".toList inside.rest with
    | none => .emit .blockStart c.offset .block inside
    | some (length, trims) =>
      let raw := behind inside length trims
      match cutRaw raw.rest with
      | none => .fail .openRaw c.toEnd.offset
      | some (body, length, trims) => .emit (.data body) raw.offset .outside (behind raw length trims)

/-- The step outside of tags. -/
def stepOutside (c : Cursor) : Step :=
  match c.rest with
  | [] => .finish
  | _ =>
    match opening? c.rest with
    | some tag => openTag tag c
    | none =>
      let (data, rest) := cutData c.rest
      let next := c.past data rest
      let kept := if rest[2]? = some '-' then trimEnd data else data
      if kept.isEmpty then .skip .outside next else .emit (.data kept) c.offset .outside next

/-- The step at a string. -/
def stepString (delimiter : Char) (place : Place) (c : Cursor) : Step :=
  match cutString delimiter c.advance.rest with
  | none => .fail .openString c.toEnd.offset
  | some (inside, rest) =>
    let next := c.past (delimiter :: inside ++ [delimiter]) rest
    if inside.contains '\\' then
      match unescape inside with
      | some value => .emit (.text (String.ofList value) true) c.offset place next
      | none => .fail .badEscape none
    else .emit (.text (String.ofList inside) false) c.offset place next

/-- The base of a number, from the mark it starts with. -/
def numberBase : List Char → Nat
  | '0' :: 'b' :: _ | '0' :: 'B' :: _ => 2
  | '0' :: 'o' :: _ | '0' :: 'O' :: _ => 8
  | '0' :: 'x' :: _ | '0' :: 'X' :: _ => 16
  | _ => 10

/-- The step at a number. -/
def stepNumber (place : Place) (c : Cursor) : Step :=
  let base := numberBase c.rest
  let digits := if base = 10 then c else c.skip 2
  let (taken, part, rest) := scanNumber base (if base = 10 then .integer else .radix) digits.rest
  let next := digits.past taken rest
  match readNumber base part taken with
  | .ok token => .emit token c.offset place next
  | .error fault => .fail fault next.offset

/-- The delimiter that closes the tag of a place, and its token. -/
def Place.closer : Place → List Char × Token
  | .variable => (['}', '}'], .variableEnd)
  | _ => (['%', '}'], .blockEnd)

/-- The step inside of a tag, with `balance` brackets open. -/
def stepInside (place : Place) (balance : Int) (c : Cursor) : Step :=
  match c.rest with
  | [] => .finish
  | first :: _ =>
    if isAsciiBlank first then .skip place (c.skipWhile isAsciiBlank)
    else
      let (delimiter, token) := place.closer
      match if balance = 0 then closing? delimiter c.rest else none with
      | some (length, trims) => .emit token c.offset .outside (behind c length trims)
      | none =>
        match Symbol.all.find? (fun s => c.looksAt s.spelling.toList) with
        | some s => .emit (.symbol s) c.offset place (c.skip s.spelling.length)
        | none =>
          if first == '"' || first == '\'' then stepString first place c
          else if first.isDigit then stepNumber place c
          else if isIdentifierStart first then
            .emit (.identifier (String.ofList (c.run isIdentifierPart))) c.offset place
              (c.skipWhile isIdentifierPart)
          else .fail .unexpectedCharacter c.offset

/-- The step at a place. -/
def step (place : Place) (balance : Int) (c : Cursor) : Step :=
  match place with
  | .outside => stepOutside c
  | _ => stepInside place balance c

/-! ## All tokens -/

/-- The tokens of a text up to the first lexical fault, and that fault. -/
structure Scan where
  lexemes : List Lexeme
  ending : Option LexicalFault

/-- What a token adds to the number of open brackets. -/
def Token.balance : Token → Int
  | .symbol s => s.balance
  | _ => 0

/-- Cuts a text from a place on; every step but the last moves the cursor. -/
def scanFrom : Nat → Place → Int → Cursor → Scan
  | 0, _, _, _ => ⟨[], none⟩
  | n + 1, place, balance, c =>
    match step place balance c with
    | .finish => ⟨[], none⟩
    | .fail fault offset => ⟨[], some ⟨fault, offset⟩⟩
    | .skip place c => scanFrom n place balance c
    | .emit token start place c =>
      let scan := scanFrom n place (balance + token.balance) c
      ⟨⟨token, start⟩ :: scan.lexemes, scan.ending⟩

/-- A text without one newline and then one carriage return at its end. -/
def dropFinalNewline (text : List Char) : List Char :=
  let text := if text.getLast? = some '\n' then text.dropLast else text
  if text.getLast? = some '\r' then text.dropLast else text

/-- The tokens of a template. -/
def scan (source : String) : Scan :=
  let text := dropFinalNewline source.toList
  scanFrom (text.length + 1) .outside 0 (Cursor.start text)

end PotCatalog.Template
