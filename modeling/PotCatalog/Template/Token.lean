/-
  Tokens of the template language, and what can be wrong with a template.

  A template is plain text with tags: `Token` lists what the text and the
  inside of a tag consist of, `Fault` the reasons for which a template is
  refused.  `Token.describe` and `Fault.message` hold all of the wording.
-/

namespace PotCatalog.Template

/-! ## Tokens -/

/-- An operator or a bracket. -/
inductive Symbol where
  | plus | minus | times | divide | floorDivide | modulo | power | dot | comma | colon
  | tilde | assign | pipe | equal | notEqual | greater | greaterEqual | less | lessEqual
  | parenOpen | parenClose | bracketOpen | bracketClose | braceOpen | braceClose
  deriving DecidableEq, Repr

namespace Symbol

/-- How a symbol is written. -/
def spelling : Symbol → String
  | plus => "+" | minus => "-" | times => "*" | divide => "/" | floorDivide => "//"
  | modulo => "%" | power => "**" | dot => "." | comma => "," | colon => ":"
  | tilde => "~" | assign => "=" | pipe => "|" | equal => "==" | notEqual => "!="
  | greater => ">" | greaterEqual => ">=" | less => "<" | lessEqual => "<="
  | parenOpen => "(" | parenClose => ")" | bracketOpen => "[" | bracketClose => "]"
  | braceOpen => "\x7b" | braceClose => "\x7d"

/-- The symbols, the ones of two characters before their first characters. -/
def all : List Symbol :=
  [floorDivide, power, equal, notEqual, greaterEqual, lessEqual,
   plus, minus, times, divide, modulo, dot, comma, colon, tilde, pipe, assign, greater, less,
   parenOpen, parenClose, bracketOpen, bracketClose, braceOpen, braceClose]

/-- What a symbol adds to the number of open brackets. -/
def balance : Symbol → Int
  | parenOpen | bracketOpen | braceOpen => 1
  | parenClose | bracketClose | braceClose => -1
  | _ => 0

end Symbol

/-- A token of a template. -/
inductive Token where
  /-- Text outside of tags. -/
  | data (text : List Char)
  /-- The start of a tag that prints an expression. -/
  | variableStart
  | variableEnd
  /-- The start of a tag that holds a statement. -/
  | blockStart
  | blockEnd
  | identifier (name : String)
  /-- A string, and whether it is written with escapes. -/
  | text (value : String) (escaped : Bool)
  | integer (value : Nat)
  | float
  | symbol (s : Symbol)
  deriving DecidableEq, Repr

/-- How messages call a token. -/
def Token.describe : Token → String
  | data _ => "template-data"
  | variableStart => "start of variable block"
  | variableEnd => "end of variable block"
  | blockStart => "start of block"
  | blockEnd => "end of block"
  | identifier _ => "identifier"
  | text _ _ => "string"
  | integer _ => "integer"
  | float => "float"
  | symbol s => "`" ++ s.spelling ++ "`"

/-- A token and the byte offset at which it starts. -/
structure Lexeme where
  token : Token
  start : Nat
  deriving Repr

/-! ## Faults -/

/-- What a parser was looking for. -/
inductive Expected where
  | expression
  | token (t : Token)
  | keyword
  /-- A certain word. -/
  | word (w : String)
  | identifier
  | identifierOrInteger
  /-- The comma between two assignments. -/
  | comma
  | assignment
  /-- The word `missing`. -/
  | missing
  deriving Repr

/-- How messages call what was looked for. -/
def Expected.describe : Expected → String
  | expression => "expression"
  | token t => t.describe
  | keyword => "keyword"
  | word w => w
  | identifier => "identifier"
  | identifierOrInteger => "identifier or integer"
  | comma => "comma"
  | assignment => "assignment operator"
  | missing => "missing keyword"

/-- Why a template is refused. -/
inductive Fault where
  | unexpectedCharacter
  | openString
  | openComment
  | openRaw
  | badEscape
  | trailingUnderscore
  | badFloat
  | badInteger
  /-- Another token than the one looked for. -/
  | unexpected (found : Token) (expected : Expected)
  /-- A token with which no expression starts. -/
  | noOperand (found : Token)
  /-- The text ends where something was looked for. -/
  | endOfInput (expected : Expected)
  /-- A tag that does not start with a word. -/
  | noStatement (found : Token)
  | unknownStatement (name : String)
  /-- A name that cannot be assigned to. -/
  | reserved (name : String)
  | positionalAfterKeyword
  | tooManyArguments
  | noFilter
  | duplicateBlock (name : String)
  | blockInMacro
  | mismatchedBlock (found expected : String)
  | requiredBlockBody
  /-- A `call` or `do` tag whose expression is no call, and what it is. -/
  | noCall (shape : String)
  | emptySubscript
  | tooDeep
  deriving Repr

/-- The wording of a fault. -/
def Fault.message : Fault → String
  | unexpectedCharacter => "unexpected character"
  | openString => "unexpected end of string"
  | openComment => "unexpected end of comment"
  | openRaw => "unexpected end of raw block"
  | badEscape => "bad string escape"
  | trailingUnderscore => "'_' may not occur at end of number"
  | badFloat => "invalid float"
  | badInteger => "invalid integer (too large)"
  | unexpected found expected =>
    "unexpected " ++ found.describe ++ ", expected " ++ expected.describe
  | noOperand found => "unexpected " ++ found.describe
  | endOfInput expected => "unexpected end of input, expected " ++ expected.describe
  | noStatement found => "unknown " ++ found.describe ++ ", expected statement"
  | unknownStatement name => "unknown statement " ++ name
  | reserved name => "cannot assign to reserved variable name " ++ name
  | positionalAfterKeyword => "non-keyword arg after keyword arg"
  | tooManyArguments => "Too many arguments in function call"
  | noFilter => "expected a filter"
  | duplicateBlock name => "block '" ++ name ++ "' defined twice"
  | blockInMacro => "block tags in macros are not allowed"
  | mismatchedBlock found expected =>
    "mismatching name on block. Got `" ++ found ++ "`, expected `" ++ expected ++ "`"
  | requiredBlockBody => "Required blocks can only contain comments or whitespace"
  | noCall shape => "expected call expression in call block, got " ++ shape
  | emptySubscript => "empty subscript"
  | tooDeep => "template exceeds maximum recursion limits"

/-- A fault and the byte offset it is reported at. -/
structure Failure where
  fault : Fault
  offset : Nat
  deriving Repr

/-- A fault met while cutting a text into tokens.  One without a place of its
    own is reported at the last token that was read before it. -/
structure LexicalFault where
  fault : Fault
  offset : Option Nat
  deriving Repr

end PotCatalog.Template
