/-
  Tokens in their places.

  `Lexeme.next` skips blanks and comments and reads one token.  A slash and a
  closing brace can also start a regular expression or go on with a template;
  only the parser knows, and reads them anew with `Lexeme.asPattern` and
  `Lexeme.asTemplate`.
-/
import PotCatalog.Script.Literal

namespace PotCatalog.Script

/-! ## Blanks and comments -/

/-- The blanks of scripts that end no line. -/
def isSpace (c : Char) : Bool :=
  let n := c.toNat
  n == 0x9 || n == 0xB || n == 0xC || n == 0x20 || n == 0xA0 || n == 0xFEFF || n == 0x1680 ||
    (0x2000 ≤ n && n ≤ 0x200A) || n == 0x202F || n == 0x205F || n == 0x3000

/-- What stands before a token. -/
structure Gap where
  /-- The place behind it. -/
  cursor : Cursor
  lineBreak : Bool
  /-- Where the first comment with the marks of a page starts. -/
  pageComment : Option Nat
  unclosed : Bool

/-- The number of characters before the end of a block comment, and the rest
    behind it. -/
def commentLength : List Char → Option Nat
  | [] => none
  | '*' :: '/' :: _ => some 2
  | _ :: cs => (commentLength cs).map (· + 1)

/-- Skips blanks and comments.  The marks `<!--` and, at the start of a line,
    `-->` start a comment up to the end of the line.  The first argument bounds
    the number of steps. -/
def Gap.extend : Nat → Gap → Gap
  | 0, gap => gap
  | n + 1, gap =>
    let lineComment (skipped : Nat) :=
      (gap.cursor.skip skipped).skipWhile fun c => !isLineEnd c
    let pageStart := some (gap.pageComment.getD gap.cursor.offset)
    match gap.cursor.rest with
    | '/' :: '/' :: _ => Gap.extend n { gap with cursor := lineComment 2 }
    | '/' :: '*' :: cs =>
      match commentLength cs with
      | none => { gap with cursor := gap.cursor.toEnd, unclosed := true }
      | some length =>
        let broken := (cs.take length).any isLineEnd
        Gap.extend n
          { gap with cursor := gap.cursor.skip (length + 2), lineBreak := gap.lineBreak || broken }
    | '<' :: '!' :: '-' :: '-' :: _ =>
      Gap.extend n { gap with cursor := lineComment 4, pageComment := pageStart }
    | '-' :: '-' :: '>' :: _ =>
      if gap.lineBreak then
        Gap.extend n { gap with cursor := lineComment 3, pageComment := pageStart }
      else gap
    | c :: _ =>
      if isLineEnd c then Gap.extend n { gap with cursor := gap.cursor.advance, lineBreak := true }
      else if isSpace c then Gap.extend n { gap with cursor := gap.cursor.skipWhile isSpace }
      else gap
    | [] => gap

/-! ## Lexemes -/

/-- A token in its place. -/
structure Lexeme where
  token : Token
  /-- Where it starts; behind a comment with the marks of a page, that is where
      the comment starts. -/
  start : Nat
  /-- The place of its first character. -/
  first : Cursor
  /-- The place behind it. -/
  after : Cursor
  /-- Whether it is the first token on its line. -/
  lineBreak : Bool

/-- Reads the token at a place without blanks. -/
def readToken (size : Nat) (cursor : Cursor) : Reading :=
  match cursor.rest with
  | [] => ⟨.endOfSource, cursor, []⟩
  | c :: cs =>
    if isNameStart c || c == '\\' then scanWord size cursor
    else if c.isDigit || (c == '.' && (cs.head?.map Char.isDigit).getD false) then
      scanNumber cursor
    else if c == '"' || c == '\'' then scanText size c cursor
    else if c == '\x60' then scanTemplate size cursor
    else
      match Mark.leading? cursor.rest with
      | some (spelling, mark) => ⟨.mark mark, cursor.skip spelling.length, []⟩
      | none => .invalid (.unexpectedCharacter c) cursor.offset cursor.advance []

namespace Lexeme

/-- Reads the next token of a script with `size` characters, and the notices on
    it. -/
def next (size : Nat) (cursor : Cursor) (lineBreak : Bool) : Lexeme × List Notice :=
  let gap := Gap.extend (size + 1) ⟨cursor, lineBreak, none, false⟩
  let place := gap.cursor
  let reading :=
    if gap.unclosed then Reading.invalid .unterminatedComment place.offset place []
    else readToken size place
  let legacy : List Notice :=
    match gap.pageComment with
    | some start => [⟨.moduleCode, ⟨.legacyComment, start⟩⟩]
    | none => []
  (⟨reading.token, gap.pageComment.getD place.offset, place, reading.after, gap.lineBreak⟩,
    legacy ++ reading.notices)

/-- The first token of a script, behind a line that starts with `#!`. -/
def leading (text : List Char) : Lexeme × List Notice :=
  let cursor := Cursor.start text
  let behind :=
    if cursor.looksAt ['#', '!'] then cursor.skipWhile fun c => !isLineEnd c else cursor
  next text.length behind true

/-- A lexeme with its token read anew. -/
def reread (l : Lexeme) (scan : Cursor → Reading) : Lexeme × List Notice :=
  let reading := scan l.first
  ({ l with token := reading.token, after := reading.after }, reading.notices)

/-- Reads a regular expression where a slash stands. -/
def asPattern (l : Lexeme) : Lexeme × List Notice := l.reread scanPattern

/-- Goes on with a template where a closing brace stands. -/
def asTemplate (size : Nat) (l : Lexeme) : Lexeme × List Notice := l.reread (scanTemplate size)

end Lexeme

end PotCatalog.Script
