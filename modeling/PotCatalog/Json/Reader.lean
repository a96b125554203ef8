/-
  Reading a text in JSON from left to right.

  A `Reader` moves over a text and knows the line and the byte it is at.  A
  fault is reported either at the place reached or one byte further, at the
  character that is looked at.
-/
import PotCatalog.Json.Fault

namespace PotCatalog.Json

/-- The characters still to be read, and the mark of the place before them. -/
structure Place where
  rest : List Char
  mark : Mark
  deriving Repr

namespace Mark

/-- The start of a text. -/
def start : Mark := ⟨1, 0⟩

/-- The mark behind a character. -/
def step (m : Mark) (c : Char) : Mark :=
  if c = '\n' then ⟨m.line + 1, 0⟩ else ⟨m.line, m.column + c.utf8Size⟩

/-- The mark a number of bytes further on, perhaps inside a character. -/
def skipBytes (m : Mark) : Nat → List Char → Mark
  | 0, _ | _, [] => m
  | n + 1, c :: cs =>
    if c.utf8Size ≤ n + 1 then (m.step c).skipBytes (n + 1 - c.utf8Size) cs
    else ⟨m.line, m.column + n + 1⟩
termination_by _ cs => cs

end Mark

/-- A step of reading. -/
abbrev Reader := StateT Place (Except Fault)

namespace Reader

/-- Fails at the place reached. -/
def failHere {α : Type} (cause : Cause) : Reader α := do throw ⟨cause, (← get).mark⟩

/-- Fails a number of bytes further on. -/
def failAfter {α : Type} (bytes : Nat) (cause : Cause) : Reader α := do
  let place ← get
  throw ⟨cause, place.mark.skipBytes bytes place.rest⟩

/-- Fails at the character that comes next. -/
def failAhead {α : Type} (cause : Cause) : Reader α := failAfter 1 cause

/-- The next character. -/
def peek : Reader (Option Char) := return (← get).rest.head?

/-- Moves over the next character. -/
def bump : Reader Unit := modify fun place =>
  match place.rest with
  | [] => place
  | c :: cs => ⟨cs, place.mark.step c⟩

/-- Moves over characters. -/
def bumpOver : Nat → Reader Unit
  | 0 => return
  | count + 1 => do
    bump
    bumpOver count

/-- Whether a character is white space. -/
def isSpace (c : Char) : Bool := c == ' ' || c == '\n' || c == '\t' || c == '\r'

/-- Moves over the longest run of characters that satisfy `p`, and yields it. -/
def run (p : Char → Bool) : Reader (List Char) := do
  let taken := (← get).rest.takeWhile p
  bumpOver taken.length
  return taken

/-- Moves over white space and yields the character behind it. -/
def peekPastSpace : Reader (Option Char) := do
  let _ ← run isSpace
  peek

end Reader

end PotCatalog.Json
