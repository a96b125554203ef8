/-
  Texts between double quotes, as messages show them.
-/
import PotCatalog.Text.Printable

namespace PotCatalog

/-- A character inside double quotes: the quote, the backslash and characters
    that cannot be seen are escaped. -/
def quotedPiece (c : Char) : String :=
  if c = '"' then "\\\""
  else if c = '\\' then "\\\\"
  else if c = '\x00' then "\\0"
  else if c = '\t' then "\\t"
  else if c = '\n' then "\\n"
  else if c = '\r' then "\\r"
  else if hiddenRanges.contains c then "\\u\x7b" ++ hexadecimal c.toNat ++ "\x7d"
  else c.toString

/-- A text between double quotes. -/
def quotedText (text : String) : String :=
  "\"" ++ String.join (text.toList.map quotedPiece) ++ "\""

end PotCatalog
