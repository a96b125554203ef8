/-
  Catalogs as text.

  A catalog is a header and one entry per message.  An entry lists the places
  where the message was found, then the message and its plural form in quotes,
  and an empty text for each form.  Entries are separated by one blank line.
-/
import PotCatalog.Message

namespace PotCatalog

/-! ## Quoting -/

/-- A character as it is written between quotes. -/
def escapeChar : Char → List Char
  | '\\' => ['\\', '\\']
  | '"' => ['\\', '"']
  | '\n' => ['\\', 'n']
  | '\r' => ['\\', 'r']
  | '\t' => ['\\', 't']
  | c => [c]

/-- A text as it is written between quotes, as characters. -/
def escapeChars (cs : List Char) : List Char := cs.flatMap escapeChar

/-- A text as it is written between quotes. -/
def escape (text : String) : String := String.ofList (escapeChars text.toList)

/-- A text in quotes. -/
def quote (text : String) : String := "\"" ++ escape text ++ "\""

/-! ## Entries -/

/-- The lines of a catalog's header. -/
def headerLines (date : String) : List String :=
  ["msgid \"\"",
   "msgstr \"\"",
   "\"Project-Id-Version: PACKAGE VERSION\\n\"",
   "\"Report-Msgid-Bugs-To: \\n\"",
   "\"POT-Creation-Date: " ++ date ++ "\\n\"",
   "\"PO-Revision-Date: YEAR-MO-DA HO:MI+ZONE\\n\"",
   "\"Last-Translator: Automatically generated\\n\"",
   "\"Language-Team: none\\n\"",
   "\"Language: \\n\"",
   "\"MIME-Version: 1.0\\n\"",
   "\"Content-Type: text/plain; charset=UTF-8\\n\"",
   "\"Content-Transfer-Encoding: 8bit\\n\"",
   "\"X-Generator: Translate Toolkit 1.6.0\\n\"",
   "\"Plural-Forms: nplurals=2; plural=(n != 1);\\n\""]

/-- A catalog's header, with the blank line behind it. -/
def header (date : String) : String := "\n".intercalate (headerLines date) ++ "\n\n"

/-- The lines of a message's entry. -/
def Message.entryLines (m : Message) : List String :=
  m.locations.map (fun location => "#: " ++ location.text) ++
    ("msgid " ++ quote m.msgid) ::
    match m.plural with
    | some plural => ["msgid_plural " ++ quote plural, "msgstr[0] \"\"", "msgstr[1] \"\""]
    | none => ["msgstr \"\""]

/-- A message's entry. -/
def Message.entry (m : Message) : String := "\n".intercalate m.entryLines

/-- The entries of messages; none make no text at all. -/
def entries : List Message → String
  | [] => ""
  | messages => "\n\n".intercalate (messages.map Message.entry) ++ "\n"

/-- The catalog of messages, made at a date. -/
def catalog (messages : List Message) (date : String) : String := header date ++ entries messages

end PotCatalog
