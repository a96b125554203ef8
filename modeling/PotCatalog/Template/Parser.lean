/-
  The state and the steps of the template parser.

  A parser reads tokens one by one and may look at the next one.  It stops at
  the first fault, which is reported at the last token read, or at a place of
  its own if the text could not be cut into tokens there.
-/
import PotCatalog.Template.Scan
import PotCatalog.Template.Tree

namespace PotCatalog.Template

/-- The state of a parser. -/
structure State where
  /-- The number of tokens of the template. -/
  size : Nat
  /-- The tokens still to be read. -/
  pending : List Lexeme
  /-- The lexical fault behind them. -/
  ending : Option LexicalFault
  /-- Where the last token read starts. -/
  last : Nat
  /-- How many expressions, operands and statements are open. -/
  depth : Nat
  inMacro : Bool
  /-- The names of the blocks so far. -/
  blocks : List String

/-- A parser. -/
abbrev Parser := StateT State (Except Failure)

namespace Parser

/-- Stops with a fault at the last token read. -/
def fail {α : Type} (fault : Fault) : Parser α := fun s => .error ⟨fault, s.last⟩

/-- The next token, if there is one; a lexical fault that comes next is met. -/
def peek : Parser (Option Token) := fun s =>
  match s.pending with
  | lexeme :: _ => .ok (some lexeme.token, s)
  | [] =>
    match s.ending with
    | some fault => .error ⟨fault.fault, fault.offset.getD s.last⟩
    | none => .ok (none, s)

/-- Reads the next token, if there is one. -/
def next : Parser (Option Token) := fun s =>
  match s.pending with
  | lexeme :: rest => .ok (some lexeme.token, { s with pending := rest, last := lexeme.start })
  | [] =>
    match s.ending with
    | some fault => .error ⟨fault.fault, fault.offset.getD s.last⟩
    | none => .ok (none, s)

/-- Whether a string comes next.  A lexical fault that comes next instead is
    forgotten, and the text ends there. -/
def peekText : Parser Bool := fun s =>
  match s.pending with
  | ⟨.text _ _, _⟩ :: _ => .ok (true, s)
  | _ :: _ => .ok (false, s)
  | [] => .ok (false, { s with ending := none })

/-- Where the next token starts; at the end, where the last one did. -/
def here : Parser Nat := fun s =>
  .ok ((s.pending.head?.map Lexeme.start).getD s.last, s)

/-- Whether the next token satisfies a condition. -/
def sees (p : Token → Bool) : Parser Bool := do return (← peek).any p

/-- Reads the next token if it satisfies a condition. -/
def skips (p : Token → Bool) : Parser Bool := do
  if ← sees p then
    let _ ← next
    return true
  else return false

/-- Reads a token that has to satisfy a condition. -/
def expectThat {α : Type} (expected : Expected) (p : Token → Option α) : Parser α := do
  match ← next with
  | none => fail (.endOfInput expected)
  | some token =>
    match p token with
    | some a => return a
    | none => fail (.unexpected token expected)

/-- Reads a certain token. -/
def expect (token : Token) (expected : Expected) : Parser Unit :=
  expectThat expected fun t => if t = token then some () else none

/-- Reads a certain symbol. -/
def expectSymbol (s : Symbol) : Parser Unit := expect (.symbol s) (.token (.symbol s))

/-- Reads the end of a block tag. -/
def expectBlockEnd : Parser Unit := expect .blockEnd (.token .blockEnd)

/-- Reads a name. -/
def expectName : Parser String :=
  expectThat .identifier fun
    | .identifier name => some name
    | _ => none

/-- Whether a certain symbol comes next. -/
def seesSymbol (s : Symbol) : Parser Bool := sees (· == .symbol s)

/-- Reads a certain symbol if it comes next. -/
def skipsSymbol (s : Symbol) : Parser Bool := skips (· == .symbol s)

/-- Reads a certain word if it comes next. -/
def skipsWord (word : String) : Parser Bool := skips (· == .identifier word)

/-- How many expressions, operands and statements may be open at a time. -/
def maxDepth : Nat := 150

/-- Runs a parser one level deeper. -/
def deeper {α : Type} (p : Parser α) : Parser α := do
  let depth := (← get).depth + 1
  if maxDepth < depth then fail .tooDeep
  else
    modify fun s => { s with depth := depth }
    let a ← p
    modify fun s => { s with depth := s.depth - 1 }
    return a

/-- Repeats a step until it yields a result, at most the given number of times. -/
def repeatFrom {α β : Type} (body : α → Parser (α ⊕ β)) : Nat → α → Parser β
  | 0, _ => fail .tooDeep
  | n + 1, a => fun s =>
    match body a s with
    | .error e => .error e
    | .ok (.inl a, s) => repeatFrom body n a s
    | .ok (.inr b, s) => .ok (b, s)

/-- Repeats a step until it yields a result.  All but the last round read a
    token, so the number of tokens bounds the number of rounds. -/
def loop {α β : Type} (start : α) (body : α → Parser (α ⊕ β)) : Parser β := do
  repeatFrom body ((← get).size + 1) start

end Parser

end PotCatalog.Template
