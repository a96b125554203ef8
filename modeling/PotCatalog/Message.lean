/-
  Messages of a program.

  A `Message` is a text found in the sources, its plural form if it has one,
  and the places where it was found.
-/

namespace PotCatalog

/-- Where a message was found: a file and a line, counted from one. -/
structure Location where
  path : String
  line : Nat
  deriving DecidableEq, Repr

/-- A location as it is written in catalogs and reports. -/
def Location.text (l : Location) : String := l.path ++ ":" ++ toString l.line

/-- A message, as it is written in the source with its escapes decoded. -/
structure Message where
  msgid : String
  plural : Option String
  locations : List Location
  deriving DecidableEq, Repr

/-- The two kinds of sources. -/
inductive SourceKind where
  | template
  | script
  deriving DecidableEq, Repr

end PotCatalog
