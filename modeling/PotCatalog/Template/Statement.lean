/-
  The grammar of statements in templates.

  A statement stands in a block tag and starts with a word.  One with a body
  runs up to a tag that starts with the word that ends it; a text that stops
  before that tag is met as the end of the input.
-/
import PotCatalog.Template.Expression

namespace PotCatalog.Template

open PotCatalog.Template.Parser

/-! ## Assignment -/

/-- The names that cannot be assigned to. -/
def reservedNames : List String :=
  ["true", "True", "false", "False", "none", "None", "loop", "self"]

/-- Reads a name to be assigned to, with attributes if `dotted`. -/
def assignedName (dotted : Bool) : Parser Expr := do
  let name ← expectName
  if reservedNames.contains name then fail (.reserved name)
  loop (.var name) fun subject => do
    if dotted then
      if ← skipsSymbol .dot then return .inl (.attribute subject (← expectName))
    return .inr subject

/-- Whether no further name of an assignment can start here. -/
def endsTarget (t : Token) : Bool :=
  t == .symbol .parenClose || t == .variableEnd || t == .blockEnd || t == .identifier "in"

/-- The left side of an assignment from its names; a comma makes it a list. -/
def targetOf (names : List Expr) (commas : Bool) : Expr :=
  match names, commas with
  | [name], false => name
  | names, _ => .list names

/-- Reads the left side of an assignment. -/
def target (rules : Rules) (dotted : Bool) : Parser Expr :=
  loop ([], false) fun (acc, commas) => do
    if commas then expectSymbol .comma
    if ← sees endsTarget then return .inr (targetOf acc.reverse commas)
    let name ←
      if ← skipsSymbol .parenOpen then
        let inner ← rules (.target dotted)
        expectSymbol .parenClose
        pure inner
      else assignedName dotted
    let acc := name :: acc
    if ← seesSymbol .comma then return .inl (acc, true)
    else return .inr (targetOf acc.reverse commas)

/-! ## Statements with a body -/

/-- Reads a body up to the tag that starts with `closer`, and that word. -/
def closedBody (rules : Rules) (closer : String) : Parser (List Stmt) := do
  let body ← rules (.body [closer])
  let _ ← next
  return body

/-- Reads a `for` statement. -/
def forLoop (rules : Rules) : Parser Stmt := do
  let target ← rules (.target false)
  expect (.identifier "in") (.word "in")
  let iter ← disjunctions rules
  let filter ← if ← skipsWord "if" then some <$> rules .expression else pure none
  let _ ← skipsWord "recursive"
  expectBlockEnd
  let body ← rules (.body ["endfor", "else"])
  let otherwise ←
    if ← skipsWord "else" then
      expectBlockEnd
      rules (.body ["endfor"])
    else pure []
  let _ ← next
  return .forLoop target iter filter body otherwise

/-- Reads what follows the word `if` or `elif`. -/
def conditional (rules : Rules) : Parser Stmt := do
  let test ← disjunctions rules
  expectBlockEnd
  let body ← rules (.body ["endif", "else", "elif"])
  match ← next with
  | some (.identifier "else") =>
    expectBlockEnd
    return .ifElse test body (← closedBody rules "endif")
  | some (.identifier "elif") => return .ifElse test body [← rules .conditional]
  | _ => return .ifElse test body []

/-- Reads a `with` statement. -/
def withBlock (rules : Rules) : Parser Stmt := do
  let bindings ← loop [] fun acc => do
    if ← sees (· == .blockEnd) then return .inr acc.reverse
    if !acc.isEmpty then expect (.symbol .comma) .comma
    let target ←
      if ← skipsSymbol .parenOpen then
        let inner ← rules (.target false)
        expectSymbol .parenClose
        pure inner
      else assignedName false
    expect (.symbol .assign) .assignment
    return .inl (⟨target, ← rules .expression⟩ :: acc)
  expectBlockEnd
  return .withBlock bindings (← closedBody rules "endwith")

/-- Reads filters with `|` between them, applied to a body. -/
def filterChain (rules : Rules) : Parser Expr :=
  loop none fun chain => do
    if ← sees (· == .blockEnd) then
      match chain with
      | some filter => return .inr filter
      | none => fail .noFilter
    if chain.isSome then expectSymbol .pipe
    let name ← dottedName
    return .inl (some (.filter name chain (← optionalArguments rules)))

/-- Reads a value to be assigned; commas make it a list. -/
def assignedValue (rules : Rules) : Parser Expr := do
  let first ← rules .expression
  if ← seesSymbol .comma then
    loop [first] fun acc => do
      if ← skipsSymbol .comma then
        if ← sees (· == .blockEnd) then return .inr (.list acc.reverse)
        return .inl ((← rules .expression) :: acc)
      else return .inr (.list acc.reverse)
  else return first

/-- Reads a `set` statement. -/
def setStatement (rules : Rules) : Parser Stmt := do
  let target ← rules (.target true)
  if ← sees (fun t => t == .blockEnd || t == .symbol .pipe) then
    let filter ← if ← skipsSymbol .pipe then some <$> filterChain rules else pure none
    expectBlockEnd
    return .setBlock target filter (← closedBody rules "endset")
  else
    expect (.symbol .assign) .assignment
    return .set target (← assignedValue rules)

/-- Whether a statement prints nothing but blanks. -/
def Stmt.isBlank : Stmt → Bool
  | .data text => text.all PotCatalog.isBlank
  | _ => false

/-- Reads a `block` statement. -/
def block (rules : Rules) : Parser Stmt := do
  if (← get).inMacro then fail .blockInMacro
  let name ← expectName
  if (← get).blocks.contains name then fail (.duplicateBlock name)
  modify fun s => { s with blocks := name :: s.blocks }
  let _ ← skipsWord "scoped"
  let required ← skipsWord "required"
  expectBlockEnd
  let body ← closedBody rules "endblock"
  if required && !body.all Stmt.isBlank then fail .requiredBlockBody
  match ← peek with
  | some (.identifier trailing) =>
    if trailing = name then
      let _ ← next
    else fail (.mismatchedBlock trailing name)
  | _ => pure ()
  return .block name body

/-! ## Statements about other templates -/

/-- Reads the words `with context` or `without context`, if they come next. -/
def contextMark : Parser Bool := do
  if ← skips (fun t => t == .identifier "with" || t == .identifier "without") then
    expect (.identifier "context") (.word "context")
    return true
  else return false

/-- Reads an `include` statement. -/
def embed (rules : Rules) : Parser Stmt := do
  let name ← rules .expression
  let _ ← contextMark
  if ← skipsWord "ignore" then
    expect (.identifier "missing") .missing
    let _ ← contextMark
  return .embed name

/-- Reads an `import` statement. -/
def importAs (rules : Rules) : Parser Stmt := do
  let source ← rules .expression
  expect (.identifier "as") (.word "as")
  let name ← rules .expression
  let _ ← contextMark
  return .importAs source name

/-- Whether the names of a `from` statement end here. -/
def endsNames : Parser Bool := do
  if ← sees (· == .blockEnd) then return true else contextMark

/-- Reads a `from` statement. -/
def importFrom (rules : Rules) : Parser Stmt := do
  let source ← rules .expression
  expect (.identifier "import") (.word "import")
  loop [] fun names => do
    if ← endsNames then return .inr (.importFrom source names.reverse)
    if !names.isEmpty then
      expectSymbol .comma
      if ← endsNames then return .inr (.importFrom source names.reverse)
    let name ← assignedName false
    let known ← if ← skipsWord "as" then some <$> assignedName false else pure none
    return .inl ((name, known) :: names)

/-! ## Macros and calls -/

/-- Reads the parameters of a macro behind the opening parenthesis, and their
    default values. -/
def parameters (rules : Rules) : Parser (List Expr × List Expr) :=
  loop ([], []) fun (names, defaults) => do
    if ← skipsSymbol .parenClose then return .inr (names.reverse, defaults.reverse)
    if !names.isEmpty then
      expectSymbol .comma
      if ← skipsSymbol .parenClose then return .inr (names.reverse, defaults.reverse)
    let names := (← assignedName false) :: names
    if ← skipsSymbol .assign then return .inl (names, (← rules .expression) :: defaults)
    if !defaults.isEmpty then expectSymbol .assign
    return .inl (names, defaults)

/-- Reads the body of a macro or of a call, in which no block may stand. -/
def macroBody (rules : Rules) (closer : String) : Parser (List Stmt) := do
  expectBlockEnd
  let outer := (← get).inMacro
  modify fun s => { s with inMacro := true }
  let body ← rules (.body [closer])
  modify fun s => { s with inMacro := outer }
  let _ ← next
  return body

/-- Reads a `macro` statement. -/
def define (rules : Rules) : Parser Stmt := do
  let name ← expectName
  expectSymbol .parenOpen
  let (params, defaults) ← parameters rules
  return .define name params defaults (← macroBody rules "endmacro")

/-- Reads an expression that has to be a call. -/
def callOnly (rules : Rules) : Parser Call := do
  match ← rules .expression with
  | .call c => return c
  | other => fail (.noCall other.shape)

/-- Reads a `call` statement. -/
def callBlock (rules : Rules) : Parser Stmt := do
  let (params, defaults) ←
    if ← skipsSymbol .parenOpen then parameters rules else pure ([], [])
  let call ← callOnly rules
  return .callBlock call params defaults (← macroBody rules "endcall")

/-! ## All statements -/

/-- Reads a statement behind the start of its tag. -/
def statement (rules : Rules) : Parser Stmt := deeper do
  match ← next with
  | none => fail (.endOfInput .keyword)
  | some (.identifier "for") => forLoop rules
  | some (.identifier "if") => rules .conditional
  | some (.identifier "with") => withBlock rules
  | some (.identifier "set") => setStatement rules
  | some (.identifier "autoescape") =>
    let enabled ← rules .expression
    expectBlockEnd
    return .autoEscape enabled (← closedBody rules "endautoescape")
  | some (.identifier "filter") =>
    let filter ← filterChain rules
    expectBlockEnd
    return .filterBlock filter (← closedBody rules "endfilter")
  | some (.identifier "block") => block rules
  | some (.identifier "extends") => return .extend (← rules .expression)
  | some (.identifier "include") => embed rules
  | some (.identifier "import") => importAs rules
  | some (.identifier "from") => importFrom rules
  | some (.identifier "macro") => define rules
  | some (.identifier "call") => callBlock rules
  | some (.identifier "do") => return .perform (← callOnly rules)
  | some (.identifier name) => fail (.unknownStatement name)
  | some token => fail (.noStatement token)

/-- Whether a token is one of these words. -/
def isWord (words : List String) : Token → Bool
  | .identifier name => words.contains name
  | _ => false

/-- Reads statements up to a tag that starts with one of these words, whose
    start is read too, or up to the end of the text. -/
def body (rules : Rules) (closers : List String) : Parser (List Stmt) :=
  loop [] fun acc => do
    match ← next with
    | none => return .inr acc.reverse
    | some (.data text) => return .inl (.data text :: acc)
    | some .variableStart =>
      let value ← rules .expression
      expect .variableEnd (.token .variableEnd)
      return .inl (.emit value :: acc)
    | some .blockStart =>
      match ← peek with
      | none => fail (.endOfInput .keyword)
      | some token =>
        if isWord closers token then return .inr acc.reverse
        let stmt ← statement rules
        expectBlockEnd
        return .inl (stmt :: acc)
    | some token => fail (.noStatement token)

/-! ## Templates -/

/-- The rules, given the rules for what they contain. -/
def rulesOver (inner : Rules) : Rules
  | .expression => expression inner
  | .body closers => body inner closers
  | .conditional => conditional inner
  | .target dotted => target inner dotted

/-- The rules for at most `n` levels inside each other. -/
def rulesTo : Nat → Rules
  | 0 => fun _ => fail .tooDeep
  | n + 1 => fun g => rulesOver (rulesTo n) g

/-- The tree of a template.  A rule reads a token before it comes to a rule
    inside of it, so the number of tokens bounds the levels. -/
def parse (source : String) : Except Failure Tree :=
  let tokens := scan source
  let size := tokens.lexemes.length
  let start : State := ⟨size, tokens.lexemes, tokens.ending, 0, 0, false, []⟩
  match rulesTo (size + 2) (.body []) start with
  | .ok (body, _) => .ok ⟨body⟩
  | .error failure => .error failure

end PotCatalog.Template
