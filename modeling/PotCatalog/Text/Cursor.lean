/-
  Reading a text from left to right.

  A `Cursor` holds the characters still to be read and the number of UTF-8
  bytes before them, so that every place in a text has a byte offset.  All
  scanners move a cursor forward only.
-/

namespace PotCatalog

/-- The number of bytes that a list of characters takes in UTF-8. -/
def utf8Length : List Char → Nat
  | [] => 0
  | c :: cs => c.utf8Size + utf8Length cs

/-- A place in a text: the characters still to be read, and the number of
    bytes before them. -/
structure Cursor where
  rest : List Char
  offset : Nat
  deriving Repr

namespace Cursor

/-- The start of a text. -/
def start (text : List Char) : Cursor := ⟨text, 0⟩

/-- Moves over one character, if there is one. -/
def advance : Cursor → Cursor
  | ⟨[], n⟩ => ⟨[], n⟩
  | ⟨c :: cs, n⟩ => ⟨cs, n + c.utf8Size⟩

/-- Moves over `n` characters, or to the end. -/
def skip (c : Cursor) : Nat → Cursor
  | 0 => c
  | n + 1 => c.advance.skip n

/-- Moves over the given characters and on to `rest`. -/
def past (c : Cursor) (taken rest : List Char) : Cursor :=
  ⟨rest, c.offset + utf8Length taken⟩

/-- The longest run of characters that satisfy `p`. -/
def run (p : Char → Bool) (c : Cursor) : List Char := c.rest.takeWhile p

/-- Moves over the longest run of characters that satisfy `p`. -/
def skipWhile (p : Char → Bool) (c : Cursor) : Cursor :=
  c.past (c.run p) (c.rest.dropWhile p)

/-- Moves to the end of the text. -/
def toEnd (c : Cursor) : Cursor := c.past c.rest []

/-- The next character. -/
def peek (c : Cursor) : Option Char := c.rest.head?

/-- Whether the given characters come next. -/
def looksAt (c : Cursor) (word : List Char) : Bool := word.isPrefixOf c.rest

end Cursor

end PotCatalog
