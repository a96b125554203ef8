/-
  Styled text.

  A `StyledText` is a list of pieces, each with the styles it is shown in.  It
  is written with the escape sequences of a terminal, or without any.
-/

namespace PotCatalog

/-- A style of a piece of text. -/
inductive Style where
  | bold | dimmed | red | green | yellow | blue | cyan
  deriving DecidableEq, Repr

/-- The number of a style in an escape sequence. -/
def Style.code : Style → String
  | bold => "1"
  | dimmed => "2"
  | red => "31"
  | green => "32"
  | yellow => "33"
  | blue => "34"
  | cyan => "36"

/-- A text and the styles it is shown in. -/
structure Piece where
  styles : List Style
  text : String
  deriving DecidableEq, Repr

/-- A text in pieces. -/
abbrev StyledText := List Piece

/-- A text without a style. -/
def plain (text : String) : Piece := ⟨[], text⟩

/-- A text with styles. -/
def styled (styles : List Style) (text : String) : Piece := ⟨styles, text⟩

/-- A piece as it is written, with or without colours. -/
def Piece.render (color : Bool) (piece : Piece) : String :=
  if color && !piece.styles.isEmpty then
    "\x1b[" ++ ";".intercalate (piece.styles.map Style.code) ++ "m" ++ piece.text ++ "\x1b[0m"
  else piece.text

/-- A text as it is written, with or without colours. -/
def StyledText.render (color : Bool) (text : StyledText) : String :=
  String.join (text.map (Piece.render color))

end PotCatalog
