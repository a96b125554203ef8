/-
  Paths of any bytes.

  The names of files are bytes, which need not be those of a text.  A `RawPath` is
  a path of any bytes, and `Path.raw` is the one that a path stands for.

  What `Path` knows of a character is whether it is a slash or a dot.  So it
  serves raw paths as well: each byte is spelled as the character with its number.
  Only a name below a base directory is a text again, with replacement characters
  for what is none.
-/
import PotCatalog.Path
import PotCatalog.Text.Utf8

namespace PotCatalog

/-- A path of any bytes. -/
structure RawPath where
  bytes : List UInt8
  deriving DecidableEq, Repr

/-- The bytes that characters spell. -/
def spelledBytes (cs : List Char) : List UInt8 := cs.map Char.toUInt8

/-- A path in UTF-8. -/
def Path.raw (p : Path) : RawPath := ⟨bytesOf p.text⟩

namespace RawPath

/-- A raw path in which each byte is spelled as a character. -/
def spelled (p : RawPath) : Path := ⟨String.ofList (p.bytes.map Char.ofUInt8)⟩

/-- A raw path read from a base directory. -/
def join (base p : RawPath) : RawPath := ⟨spelledBytes (base.spelled.join p.spelled).text.toList⟩

/-- The name of a raw path below a base directory, as a text. -/
def displayPath (base p : RawPath) : String :=
  textOf (spelledBytes (PotCatalog.displayPath base.spelled p.spelled).toList)

end RawPath

end PotCatalog
