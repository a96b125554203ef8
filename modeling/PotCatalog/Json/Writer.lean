/-
  Writing JSON on several lines.

  Each item and each member stands on a line of its own, two blanks further in
  than what it belongs to.  Strings have only the escapes that they need.
-/
import PotCatalog.Text.Printable

namespace PotCatalog.Json

/-- A character inside a string. -/
def escapedPiece (c : Char) : String :=
  if c = '"' then "\\\""
  else if c = '\\' then "\\\\"
  else if c = '\x08' then "\\b"
  else if c = '\x0c' then "\\f"
  else if c = '\n' then "\\n"
  else if c = '\r' then "\\r"
  else if c = '\t' then "\\t"
  else if c < ' ' then "\\u00" ++ (if c.toNat < 16 then "0" else "") ++ hexadecimal c.toNat
  else c.toString

/-- A string. -/
def stringText (text : String) : String :=
  "\"" ++ String.join (text.toList.map escapedPiece) ++ "\""

/-- The blanks before a line. -/
def indent (depth : Nat) : String := String.ofList (List.replicate (2 * depth) ' ')

/-- Values between two brackets, each on its own line. -/
def blockText (opening closing : String) (depth : Nat) (items : List String) : String :=
  match items with
  | [] => opening ++ closing
  | _ =>
    opening ++ "\n" ++ ",\n".intercalate (items.map (indent (depth + 1) ++ ·)) ++
      "\n" ++ indent depth ++ closing

/-- A list of values. -/
def listText (depth : Nat) (items : List String) : String := blockText "[" "]" depth items

/-- An object with the given members. -/
def objectText (depth : Nat) (members : List (String × String)) : String :=
  blockText "\x7b" "\x7d" depth (members.map fun (key, value) => stringText key ++ ": " ++ value)

/-- A list of strings. -/
def stringsText (depth : Nat) (items : List String) : String :=
  listText depth (items.map stringText)

end PotCatalog.Json
