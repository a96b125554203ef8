/-
  What can be wrong with a text in JSON.
-/
import PotCatalog.Number.Shortest
import PotCatalog.Text.Quoted

namespace PotCatalog.Json

/-- What stands where something else is wanted. -/
inductive Given where
  | null
  | boolean (value : Bool)
  | integer (value : Int)
  | floating (isNegative : Bool) (size : Binary64)
  | string (text : String)
  | sequence
  | map
  deriving DecidableEq, Repr

/-- What is wanted. -/
inductive Wanted where
  | config
  | map
  | sequence
  | string
  deriving DecidableEq, Repr

/-- The wording of what stands somewhere. -/
def Given.text : Given → String
  | null => "null"
  | boolean value => "boolean `" ++ toString value ++ "`"
  | integer value => "integer `" ++ toString value ++ "`"
  | floating isNegative size =>
    "floating point `" ++ (if isNegative then "-" else "") ++ size.text ++ "`"
  | string text => "string " ++ quotedText text
  | sequence => "sequence"
  | map => "map"

/-- The wording of what is wanted. -/
def Wanted.text : Wanted → String
  | config => "struct Config"
  | map => "a map"
  | sequence => "a sequence"
  | string => "a string"

/-- What is wrong with a text. -/
inductive Cause where
  | endInValue
  | endInObject
  | endInList
  | endInString
  | expectedValue
  | expectedColon
  | expectedListEnd
  | expectedObjectEnd
  | trailingComma
  | trailingCharacters
  | keyNotString
  | expectedWord
  | invalidNumber
  | numberOutOfRange
  | invalidEscape
  /-- The second half of a surrogate pair without its first half. -/
  | loneSurrogate
  /-- The first half of a surrogate pair without its second half. -/
  | unpairedSurrogate
  | controlCharacter
  | duplicateField (name : String)
  | wrongType (given : Given) (wanted : Wanted)
  deriving DecidableEq, Repr

/-- The wording of a cause. -/
def Cause.message : Cause → String
  | endInValue => "EOF while parsing a value"
  | endInObject => "EOF while parsing an object"
  | endInList => "EOF while parsing a list"
  | endInString => "EOF while parsing a string"
  | expectedValue => "expected value"
  | expectedColon => "expected `:`"
  | expectedListEnd => "expected `,` or `]`"
  | expectedObjectEnd => "expected `,` or `\x7d`"
  | trailingComma => "trailing comma"
  | trailingCharacters => "trailing characters"
  | keyNotString => "key must be a string"
  | expectedWord => "expected ident"
  | invalidNumber => "invalid number"
  | numberOutOfRange => "number out of range"
  | invalidEscape => "invalid escape"
  | loneSurrogate => "lone leading surrogate in hex escape"
  | unpairedSurrogate => "unexpected end of hex escape"
  | controlCharacter => "control character (\\u0000-\\u001F) found while parsing a string"
  | duplicateField name => "duplicate field `" ++ name ++ "`"
  | wrongType given wanted => "invalid type: " ++ given.text ++ ", expected " ++ wanted.text

/-- A line, counted from one, and the number of bytes before a place on it. -/
structure Mark where
  line : Nat
  column : Nat
  deriving DecidableEq, Repr

/-- What is wrong with a text, and where. -/
structure Fault where
  cause : Cause
  mark : Mark
  deriving DecidableEq, Repr

/-- The wording of a fault. -/
def Fault.message (f : Fault) : String :=
  f.cause.message ++ " at line " ++ toString f.mark.line ++ " column " ++ toString f.mark.column

end PotCatalog.Json
