/-
  Lines of a text, and the coordinates of a place in it.

  * `lines` cuts a text at its newlines; one carriage return directly before a
    newline belongs to the line ending, and a final newline starts no line;
  * `lineAt` looks a line up by its number, counted from one;
  * `positionAt` turns a byte offset into line and column, both counted from
    one, where a column is a character and only a newline ends a line.
-/
import PotCatalog.Text.Cursor

namespace PotCatalog

/-! ## Lines -/

/-- The lines of a text, without their line endings. -/
def lines : List Char → List (List Char)
  | [] => []
  | '\n' :: cs => [] :: lines cs
  | '\r' :: '\n' :: cs => [] :: lines cs
  | c :: cs =>
    match lines cs with
    | [] => [[c]]
    | line :: rest => (c :: line) :: rest

/-- The lines of a text, without their line endings. -/
def textLines (text : String) : List String := (lines text.toList).map String.ofList

/-- The text of a line, counted from one. -/
def lineAt (source : String) : Nat → Option String
  | 0 => none
  | n + 1 => (textLines source)[n]?

/-! ## Coordinates -/

/-- A line and a column, both counted from one. -/
structure Position where
  line : Nat
  column : Nat
  deriving DecidableEq, Repr

namespace Position

/-- Where a text starts. -/
def first : Position := ⟨1, 1⟩

/-- The position behind a character: a newline starts the next line, any
    other character is one column wide. -/
def step (p : Position) (c : Char) : Position :=
  if c = '\n' then ⟨p.line + 1, 1⟩ else ⟨p.line, p.column + 1⟩

/-- The position behind a text. -/
def after (text : List Char) : Position := text.foldl step first

end Position

/-- The longest start of a text that takes at most `n` bytes. -/
def takeBytes (n : Nat) : List Char → List Char
  | [] => []
  | c :: cs => if c.utf8Size ≤ n then c :: takeBytes (n - c.utf8Size) cs else []

namespace Position

/-- The position behind the longest start of a text that takes at most `n`
    bytes, if the text starts at a given position. -/
def advance (p : Position) (n : Nat) : List Char → Position
  | [] => p
  | c :: cs => if c.utf8Size ≤ n then advance (p.step c) (n - c.utf8Size) cs else p

theorem advance_eq (p : Position) (n : Nat) (text : List Char) :
    p.advance n text = (takeBytes n text).foldl step p := by
  induction text generalizing p n with
  | nil => rfl
  | cons c cs ih =>
    by_cases h : c.utf8Size ≤ n
    · simp [advance, takeBytes, h, ih]
    · simp [advance, takeBytes, h]

/-- The position of a byte offset.  An offset behind the end counts as the
    end, and one inside a character as the start of that character. -/
def atOffset (text : List Char) (offset : Nat) : Position := first.advance offset text

theorem atOffset_eq (text : List Char) (offset : Nat) :
    atOffset text offset = after (takeBytes offset text) :=
  advance_eq first offset text

end Position

/-- The position of a byte offset in a source. -/
def positionAt (source : String) (offset : Nat) : Position :=
  Position.atOffset source.toList offset

end PotCatalog
