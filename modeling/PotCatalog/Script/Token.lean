/-
  The tokens of scripts.

  All words are one kind of token: whether a word is reserved depends on where
  it stands.  `Token.name` is how messages call a token.
-/
import PotCatalog.Text.Cursor
import PotCatalog.Text.Digit
import PotCatalog.Script.Fault

namespace PotCatalog.Script

/-! ## Values of strings -/

/-- The value of a string: code points, among which halves of surrogate pairs
    can stand alone. -/
abbrev CodePoints := List Nat

namespace CodePoints

/-- Joins surrogate pairs. -/
def joined : CodePoints → CodePoints
  | high :: low :: rest =>
    match joinSurrogates high low with
    | some c => c.toNat :: joined rest
    | none => high :: joined (low :: rest)
  | rest => rest

/-- A code point as a character; half of a surrogate pair is none. -/
def character? (n : Nat) : Option Char :=
  if n.isValidChar then some (Char.ofNat n) else none

/-- The text of a value; none if half of a surrogate pair stands alone in it. -/
def text? (value : CodePoints) : Option String :=
  (value.joined.mapM character?).map String.ofList

end CodePoints

/-! ## Marks -/

/-- The tokens that consist of signs. -/
inductive Mark where
  | braceOpen | braceClose | parenOpen | parenClose | bracketOpen | bracketClose
  | dot | ellipsis | semicolon | comma | colon | question | optionalChain | arrow | hash | atSign
  | less | greater | lessEqual | greaterEqual | equal | notEqual | same | notSame
  | plus | minus | times | divide | remainder | power | increment | decrement
  | shiftLeft | shiftRight | shiftRightZero | bitAnd | bitOr | bitXor | complement
  | not | and | or | coalesce | assign
  /-- An assignment that also applies an operator. -/
  | assignWith (operator : String)
  deriving DecidableEq, Repr

/-- All marks with their spellings, longer ones before their beginnings. -/
def Mark.spellings : List (String × Mark) :=
  [(">>>=", .assignWith ">>>="), ("...", .ellipsis), ("===", .same), ("!==", .notSame),
   ("**=", .assignWith "**="), ("<<=", .assignWith "<<="), (">>=", .assignWith ">>="),
   (">>>", .shiftRightZero), ("&&=", .assignWith "&&="), ("||=", .assignWith "||="),
   ("??=", .assignWith "??="), ("=>", .arrow), ("==", .equal), ("!=", .notEqual),
   ("<=", .lessEqual), (">=", .greaterEqual), ("&&", .and), ("||", .or), ("??", .coalesce),
   ("?.", .optionalChain), ("++", .increment), ("--", .decrement), ("**", .power),
   ("<<", .shiftLeft), (">>", .shiftRight), ("+=", .assignWith "+="), ("-=", .assignWith "-="),
   ("*=", .assignWith "*="), ("/=", .assignWith "/="), ("%=", .assignWith "%="),
   ("&=", .assignWith "&="), ("|=", .assignWith "|="), ("^=", .assignWith "^="),
   ("\x7b", .braceOpen), ("\x7d", .braceClose), ("(", .parenOpen), (")", .parenClose),
   ("[", .bracketOpen), ("]", .bracketClose), (".", .dot), (";", .semicolon), (",", .comma),
   (":", .colon), ("?", .question), ("#", .hash), ("@", .atSign), ("<", .less), (">", .greater),
   ("+", .plus), ("-", .minus), ("*", .times), ("/", .divide), ("%", .remainder),
   ("&", .bitAnd), ("|", .bitOr), ("^", .bitXor), ("~", .complement), ("!", .not), ("=", .assign)]

/-- The spelling of a mark. -/
def Mark.spelling (m : Mark) : String :=
  ((spellings.find? fun (_, other) => other == m).map Prod.fst).getD ""

/-- The mark that a text starts with.  A question mark and a point before a
    digit are two marks. -/
def Mark.leading? (text : List Char) : Option (String × Mark) :=
  Mark.spellings.find? fun (spelling, mark) =>
    spelling.toList.isPrefixOf text &&
      !(mark == .optionalChain && (text[2]?.map Char.isDigit).getD false)

/-! ## Tokens -/

/-- A token. -/
inductive Token where
  /-- A name or a keyword, with its escapes decoded. -/
  | word (w : String)
  | mark (m : Mark)
  /-- A string: its value, and what is written between its quotes. -/
  | text (value : CodePoints) (written : String)
  | number
  | bigInteger
  | pattern
  /-- A part of a template up to its end or up to the next substitution; the
      failure is that of its first bad escape. -/
  | template (last : Bool) (escape : Option Failure)
  /-- Characters that form no token. -/
  | invalid (failure : Failure)
  | endOfSource
  deriving DecidableEq, Repr

/-- The words that name no variable anywhere. -/
def keywords : List String :=
  ["break", "case", "catch", "class", "const", "continue", "debugger", "default", "delete", "do",
   "else", "enum", "export", "extends", "false", "finally", "for", "function", "if", "import", "in",
   "instanceof", "new", "null", "return", "super", "switch", "this", "throw", "true", "try",
   "typeof", "var", "void", "while", "with"]

/-- The words that mean something in certain places only. -/
def contextualWords : List String :=
  ["abstract", "accessor", "any", "as", "assert", "asserts", "async", "await", "bigint", "boolean",
   "constructor", "declare", "from", "get", "global", "implements", "infer", "interface",
   "intrinsic", "is", "keyof", "let", "meta", "namespace", "never", "number", "object", "of", "out",
   "override", "package", "private", "protected", "public", "readonly", "require", "satisfies",
   "set", "static", "string", "symbol", "target", "type", "undefined", "unique", "unknown", "using",
   "yield"]

/-- Whether a word names no variable anywhere. -/
def isKeyword (word : String) : Bool := keywords.contains word

namespace Token

/-- How messages call a token. -/
def name : Token → String
  | word w => if isKeyword w || contextualWords.contains w then w else "ident"
  | mark m => m.spelling
  | text _ _ => "string literal"
  | number => "numeric literal"
  | bigInteger => "bigint literal"
  | pattern => "regexp literal"
  | template _ _ => "template literal"
  | invalid _ => "<lexing error>"
  | endOfSource => "<eof>"

/-- Whether a token is a certain word. -/
def isWord (t : Token) (word : String) : Bool := t == .word word

/-- The text of a word. -/
def word? : Token → Option String
  | word w => some w
  | _ => none

end Token

/-! ## Operators -/

/-- How tight an operator with two operands binds; the other tokens are no
    such operators. -/
def Token.precedence? : Token → Option Nat
  | .mark m =>
    match m with
    | .coalesce | .or => some 1
    | .and => some 2
    | .bitOr => some 3
    | .bitXor => some 4
    | .bitAnd => some 5
    | .equal | .notEqual | .same | .notSame => some 6
    | .less | .lessEqual | .greater | .greaterEqual => some 7
    | .shiftLeft | .shiftRight | .shiftRightZero => some 8
    | .plus | .minus => some 9
    | .times | .divide | .remainder => some 10
    | .power => some 11
    | _ => none
  | _ => none

/-- Whether a token is an operator with one operand that stands before it. -/
def Token.isPrefixOperator : Token → Bool
  | .word w => ["delete", "void", "typeof"].contains w
  | .mark m => [.plus, .minus, .complement, .not].contains m
  | _ => false

end PotCatalog.Script
