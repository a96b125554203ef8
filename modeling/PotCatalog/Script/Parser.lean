/-
  The state and the steps of the script parser.

  A parser reads tokens one by one and may look one token ahead.  A failure
  stops it; a fault that is only noted does not.  Some faults count only in
  strict code or in a module: the first import or export makes a script a module,
  and then the faults held back so far count as well.  The
  state survives a failure, so that a rule can go on behind one.
-/
import PotCatalog.Script.Lexeme
import PotCatalog.Script.Tree

namespace PotCatalog.Script

/-! ## State -/

/-- What the surroundings allow and forbid. -/
structure Mode where
  strict : Bool := false
  moduleCode : Bool := false
  /-- Outside of all blocks, loops and functions. -/
  topLevel : Bool := false
  inFunction : Bool := false
  /-- Inside a function that is no arrow function. -/
  inPlainFunction : Bool := false
  inParameters : Bool := false
  inAsync : Bool := false
  inGenerator : Bool := false
  inClass : Bool := false
  inField : Bool := false
  inInitializer : Bool := false
  superAllowed : Bool := false
  breakAllowed : Bool := false
  continueAllowed : Bool := false
  /-- Whether the word `in` is an operator. -/
  inAllowed : Bool := false
  inLoopHead : Bool := false
  inAwaitLoopHead : Bool := false

/-- The state of a parser. -/
structure State where
  /-- The number of characters of the script. -/
  size : Nat
  current : Lexeme
  /-- The token behind the current one, if it has been looked at. -/
  ahead : Option Lexeme
  /-- Where the last token read starts and ends. -/
  previous : Nat × Nat
  mode : Mode
  labels : List String
  /-- The faults that have been noted, the last one first. -/
  noted : List Failure
  /-- The faults that count if the script is a module, the last one first. -/
  heldBack : List Failure
  isModule : Bool
  /-- Where an arrow function may start. -/
  arrowStart : Option Nat
  /-- Where the defaults stand that are wrong unless they turn out to be part
      of a target. -/
  openDefaults : List Nat
  /-- The commas that end an array, by the start of the array. -/
  finalCommas : List (Nat × Nat)

/-- A parser. -/
abbrev Parser := ExceptT Failure (StateM State)

namespace Parser

/-! ## Notes and failures -/

/-- Notes a fault. -/
def note (fault : Fault) (offset : Nat) : Parser Unit :=
  modify fun s => { s with noted := ⟨fault, offset⟩ :: s.noted }

/-- A state with the faults of a token noted or held back. -/
def recordNotice (s : State) (n : Notice) : State :=
  let counts :=
    match n.scope with
    | .everywhere => true
    | .strictCode => s.mode.strict
    | .moduleCode => s.mode.moduleCode
  if counts then { s with noted := n.failure :: s.noted }
  else { s with heldBack := n.failure :: s.heldBack }

/-- Notes a fault that counts in strict code only. -/
def noteStrict (fault : Fault) (offset : Nat) : Parser Unit :=
  modify fun s => recordNotice s ⟨.strictCode, ⟨fault, offset⟩⟩

/-- The script is a module. -/
def markModule : Parser Unit := modify fun s => { s with isModule := true }

/-- From here on the code is that of a module, which is strict. -/
def enterModule : Parser Unit :=
  modify fun s =>
    { s with
      isModule := true
      mode := { s.mode with strict := true, moduleCode := true }
      noted := s.heldBack ++ s.noted
      heldBack := [] }

/-! ## Tokens -/

/-- Reads the token behind the current one. -/
def scanAhead (s : State) : Lexeme × State :=
  match s.ahead with
  | some lexeme => (lexeme, s)
  | none =>
    let (lexeme, notices) := Lexeme.next s.size s.current.after false
    (lexeme, notices.foldl recordNotice { s with ahead := some lexeme })

/-- Moves to the next token. -/
def bump : Parser Unit :=
  modify fun s =>
    let (lexeme, s) := scanAhead s
    { s with
      previous := (s.current.start, s.current.after.offset)
      current := lexeme
      ahead := none }

/-- Reads the current token anew. -/
def reread (again : Lexeme → Lexeme × List Notice) : Parser Unit :=
  modify fun s =>
    let (lexeme, notices) := again s.current
    notices.foldl recordNotice { s with current := lexeme, ahead := none }

/-- The current token. -/
def token : Parser Token := return (← get).current.token

/-- Where the current token starts. -/
def here : Parser Nat := return (← get).current.start

/-- The token behind the current one. -/
def tokenAhead : Parser Token := modifyGet fun s =>
  let (lexeme, s) := scanAhead s
  (lexeme.token, s)

/-- Whether the token behind the current one starts a line. -/
def lineBreakAhead : Parser Bool := modifyGet fun s =>
  let (lexeme, s) := scanAhead s
  (lexeme.lineBreak, s)

/-- Whether the current token starts a line. -/
def lineBreakHere : Parser Bool := return (← get).current.lineBreak

/-- Stops with a fault at an offset.  If the current token is invalid, its own
    fault is noted. -/
def failAt {α : Type} (fault : Fault) (offset : Nat) : Parser α := do
  match ← token with
  | .invalid failure =>
    note failure.fault failure.offset
    bump
  | _ => pure ()
  throw ⟨fault, offset⟩

/-- Stops with a fault at the current token. -/
def fail {α : Type} (fault : Fault) : Parser α := do failAt fault (← here)

/-- Stops because something else had to stand here. -/
def failUnexpected {α : Type} (wanted : String) : Parser α := do
  fail (.unexpected (← token).name wanted)

/-- Whether the current token is a certain mark. -/
def sees (m : Mark) : Parser Bool := return (← token) == .mark m

/-- Whether the current token is a certain word. -/
def seesWord (w : String) : Parser Bool := return (← token) == .word w

/-- Reads a certain mark if it stands here. -/
def eats (m : Mark) : Parser Bool := do
  if ← sees m then
    bump
    return true
  else return false

/-- Reads a certain word if it stands here. -/
def eatsWord (w : String) : Parser Bool := do
  if ← seesWord w then
    bump
    return true
  else return false

/-- Reads a certain mark. -/
def expect (m : Mark) : Parser Unit := do
  if !(← eats m) then fail (.expected m.spelling (← token).name)

/-- Reads a certain word. -/
def expectWord (w : String) : Parser Unit := do
  if !(← eatsWord w) then fail (.expected w (← token).name)

/-- Whether a statement can end here. -/
def seesEnd : Parser Bool := do
  match ← token with
  | .mark .semicolon | .mark .braceClose | .endOfSource => return true
  | _ => lineBreakHere

/-- Ends a statement if it can end here. -/
def eatsEnd : Parser Bool := do
  if ← eats .semicolon then return true else seesEnd

/-- Ends a statement. -/
def expectEnd : Parser Unit := do
  if !(← eatsEnd) then fail (.expected ";" (← token).name)

/-! ## Surroundings -/

/-- The surroundings. -/
def mode : Parser Mode := return (← get).mode

/-- Runs a parser in other surroundings. -/
def inside {α : Type} (change : Mode → Mode) (p : Parser α) : Parser α := fun s =>
  let (result, after) := p { s with mode := change s.mode }
  (result, { after with mode := s.mode })

/-- Runs a parser with `in` as an operator. -/
def allowIn {α : Type} (p : Parser α) : Parser α := inside (fun m => { m with inAllowed := true }) p

/-- Runs a parser for the body of a function, which knows no labels from
    outside. -/
def inBody {α : Type} (p : Parser α) : Parser α := fun s =>
  let (result, after) := p { s with labels := [], arrowStart := none, finalCommas := [] }
  (result,
    { after with labels := s.labels, arrowStart := s.arrowStart, finalCommas := s.finalCommas })

/-- Runs a parser; the defaults in what it reads are no concern of the
    expression around it. -/
def closingDefaults {α : Type} (start : Nat) (p : Parser α) : Parser α := do
  let result ← p
  modify fun s => { s with openDefaults := s.openDefaults.filter (· < start) }
  return result

/-- Notes the defaults since `start` that have not become part of a target. -/
def reportDefaults (start : Nat) : Parser Unit := do
  let stray := (← get).openDefaults.reverse.filter (start ≤ ·)
  for offset in stray do note .strayDefault offset

/-! ## Repetition -/

/-- Repeats a step until it yields a result, at most the given number of times. -/
def repeatFrom {α β : Type} (body : α → Parser (α ⊕ β)) : Nat → α → Parser β
  | 0, _ => throw ⟨.endOfSource, 0⟩
  | n + 1, a => fun s =>
    match body a s with
    | (.error e, s) => (.error e, s)
    | (.ok (.inl a), s) => repeatFrom body n a s
    | (.ok (.inr b), s) => (.ok b, s)

/-- Repeats a step until it yields a result.  All but the last round read a
    token, so the number of characters bounds the number of rounds. -/
def loop {α β : Type} (start : α) (body : α → Parser (α ⊕ β)) : Parser β := do
  repeatFrom body ((← get).size + 2) start

/-! ## Words -/

/-- Whether a word cannot name a variable in the given surroundings. -/
def isReserved (m : Mode) (w : String) : Bool :=
  if isKeyword w then true
  else if w == "await" then m.inAsync || m.inInitializer || m.moduleCode
  else if w == "yield" then m.inGenerator || m.strict
  else
    m.strict &&
      ["implements", "interface", "let", "package", "private", "protected", "public",
        "static"].contains w

/-- The words that name no variable in strict code. -/
def strictWords : List String :=
  ["implements", "interface", "let", "package", "private", "protected", "public", "static",
   "yield"]

/-- Whether a variable can be named here. -/
def seesName : Parser Bool := do
  match ← token with
  | .word w => return !isReserved (← mode) w
  | _ => return false

/-- Reads a word of any kind. -/
def anyWord : Parser String := do
  match ← token with
  | .word w =>
    bump
    return w
  | _ => fail .noName

/-- Reads the name of a variable; `yieldAllowed` and `awaitAllowed` tell
    whether it can be one of these words. -/
def variableName (yieldAllowed awaitAllowed : Bool) : Parser String := do
  match ← token with
  | .word w =>
    let start ← here
    let m ← mode
    if strictWords.contains w then noteStrict (.strictName w) start
    if w == "await" then
      if m.inInitializer then fail .noName
      if m.moduleCode || m.inAsync then fail .awaitName
      if !awaitAllowed then fail .noName
    if w == "yield" && !yieldAllowed then fail .noName
    if isKeyword w then fail .noName
    if w == "arguments" && m.inField then note .argumentsInField start
    bump
    return w
  | _ => fail .noName

/-- Whether strict code cannot bind a name. -/
def isStrictBinding (name : String) : Bool := name == "eval" || name == "arguments"

/-- Reads a name that is bound here. -/
def bindingName (letForbidden : Bool) : Parser Expr := do
  let start ← here
  if letForbidden && (← seesWord "let") then
    failUnexpected "let is reserved in const, let, class declaration"
  let name ← variableName true true
  if isStrictBinding name then noteStrict .strictBinding start
  if (← mode).inGenerator && name == "yield" then note .noName start
  return .mk start (.name name)

end Parser

end PotCatalog.Script
