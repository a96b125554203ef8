/-
  Sources that cannot be parsed.

  A `ParseError` says what is wrong and, if it is known, where.  A file with
  one yields no messages and one issue; so does a file that cannot be read.
-/
import PotCatalog.Merge

namespace PotCatalog

/-- Why and where a source cannot be parsed. -/
structure ParseError where
  message : String
  line : Option Nat
  column : Option Nat
  deriving DecidableEq, Repr

namespace ParseError

/-- An error at a position. -/
def located (position : Position) (message : String) : ParseError :=
  ⟨message, some position.line, some position.column⟩

/-- An error on its own. -/
def text (e : ParseError) : String :=
  match e.line, e.column with
  | some line, some column =>
    e.message ++ " (" ++ toString line ++ ":" ++ toString column ++ ")"
  | some line, none => e.message ++ " (line " ++ toString line ++ ")"
  | none, _ => e.message

end ParseError

namespace Extraction

/-- What a file that cannot be parsed yields.  Without a column the error is at
    the start of its line. -/
def parseFailure (file source : String) (e : ParseError) : Extraction :=
  let context := e.line.map fun line =>
    Context.of file source ⟨line, e.column.getD 1⟩
  ⟨[], [.parseError file context e.message]⟩

/-- What a file that cannot be read yields. -/
def readFailure (file error : String) : Extraction :=
  ⟨[], [.parseError file none ("Failed to read file: " ++ error)]⟩

end Extraction

theorem exists_ok_of_toOption_map {ε α β : Type} {f : α → β} {e : Except ε α} {b : β}
    (h : e.toOption.map f = some b) : ∃ a, e = .ok a ∧ f a = b := by
  cases e with
  | error _ => cases h
  | ok a => exact ⟨a, rfl, Option.some.inj h⟩

end PotCatalog
