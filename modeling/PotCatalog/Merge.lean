/-
  One list of messages from many.

  `dedupe` joins the messages with one text: they stand where the first of
  them stands, keep its plural form and collect the places of all.  A later
  message with another plural form is a conflict.  `merge` does this to what
  the files of a catalog yield.
-/
import PotCatalog.Issue

namespace PotCatalog

/-! ## Joining messages -/

/-- Messages with different texts, and the conflicts met on the way. -/
structure Deduped where
  messages : List Message
  conflicts : List PluralConflict
  deriving Repr

/-- The conflict of a message with the first one of its text, reported at its
    first place; a message without a place has none. -/
def conflictWith (first m : Message) : List PluralConflict :=
  if first.plural = m.plural then []
  else match m.locations with
    | [] => []
    | location :: _ => [⟨location, m.msgid, first.plural, m.plural⟩]

namespace Deduped

/-- Adds the places of a message to the message with its text. -/
def extend (m : Message) (known : List Message) : List Message :=
  known.map fun k =>
    if k.msgid = m.msgid then { k with locations := k.locations ++ m.locations } else k

/-- Adds a message. -/
def add (d : Deduped) (m : Message) : Deduped :=
  match d.messages.find? (·.msgid = m.msgid) with
  | none => ⟨d.messages ++ [m], d.conflicts⟩
  | some first => ⟨extend m d.messages, d.conflicts ++ conflictWith first m⟩

end Deduped

/-- Joins the messages with one text. -/
def dedupe (messages : List Message) : Deduped := messages.foldl Deduped.add ⟨[], []⟩

/-! ## Joining files -/

/-- What a file yields. -/
structure Extraction where
  messages : List Message
  issues : List Issue
  deriving Repr

/-- The contents of a catalog, and what is wrong with its sources. -/
structure CatalogData where
  messages : List Message
  issues : List Issue
  fileCount : Nat
  deriving Repr

/-- Joins what files yield.  The conflicts stand behind the issues of the
    files. -/
def merge (files : List Extraction) : CatalogData :=
  let deduped := dedupe (files.flatMap Extraction.messages)
  { messages := deduped.messages
    issues := files.flatMap Extraction.issues ++ deduped.conflicts.map .pluralConflict
    fileCount := files.length }

end PotCatalog
