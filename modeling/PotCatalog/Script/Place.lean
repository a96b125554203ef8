/-
  Coordinates in scripts.

  A line ends at a newline, at a carriage return, or at both together; a line
  ending with which a script ends starts no further line.  A column counts the
  widths of the characters before it, and one more for each of them that takes
  two units of UTF-16.
-/
import PotCatalog.Text.Lines
import PotCatalog.Text.Width

namespace PotCatalog.Script

/-- The columns of a character in a line; the signs of a line ending count where
    they start no line. -/
def columnWidth (c : Char) : Nat :=
  if c == '\n' || c == '\r' then 1
  else sourceWidth c + if 0x10000 ≤ c.toNat then 1 else 0

/-- The position `offset` bytes ahead of a place at a given position. -/
def positionFrom (p : Position) (offset : Nat) : List Char → Position
  | [] => p
  | c :: cs =>
    if offset < c.utf8Size then p
    else
      let ends := c == '\n' || (c == '\r' && cs.head? != some '\n')
      if ends && !cs.isEmpty then positionFrom ⟨p.line + 1, 1⟩ (offset - c.utf8Size) cs
      else positionFrom ⟨p.line, p.column + columnWidth c⟩ (offset - c.utf8Size) cs

/-- The position of a byte offset. -/
def positionIn (text : List Char) (offset : Nat) : Position :=
  positionFrom Position.first offset text

end PotCatalog.Script
