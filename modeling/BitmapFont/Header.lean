import BitmapFont.RowWidth
import BitmapFont.Text.Utf8

/-!
# Headers

The header of a font file describes the font as a whole. It begins with a fixed mark and a version,
has fields of one byte each up to the name, and ends with the name and a zero byte.
-/

namespace BitmapFont

/-- A color with eight bits for each component. -/
structure Color where
  red : UInt8
  green : UInt8
  blue : UInt8
  deriving DecidableEq

namespace Color

/-- The color of fonts that choose none. -/
def white : Color := ⟨255, 255, 255⟩

/-- A color as the font statistics show it. -/
def describe (c : Color) : String :=
  "Color \x7b r: " ++ toString c.red ++ ", g: " ++ toString c.green ++ ", b: "
    ++ toString c.blue ++ " \x7d"

end Color

/-- The properties of a font as a whole. -/
structure Header where
  /-- The tag of the character set. -/
  charsetTag : UInt8
  /-- The number of pixels in each row. -/
  width : RowWidth
  /-- The number of rows in each glyph. -/
  height : UInt8
  glyphCount : UInt8
  /-- The color in which the font is drawn by default. -/
  color : Color
  name : String
  deriving DecidableEq

namespace Header

/-- The bytes at the start of every font file. -/
def magic : List UInt8 := [0xBF, 0xFF]

/-- The version of the file format. -/
def version : UInt8 := 1

/-- The place of the glyph count in a font file. -/
def glyphCountOffset : Nat := 6

/-- The place of the name in a font file. -/
def nameOffset : Nat := 10

/-- The greatest number of glyphs in a font file. -/
def maxGlyphs : Nat := 255

/-- The number of bytes that the header takes in a font file, with the zero byte after the name. -/
def encodedLength (h : Header) : Nat :=
  nameOffset + Text.utf8Length h.name + 1

/-- The number of bytes that each glyph takes in a font file. -/
def recordLength (h : Header) : Nat :=
  1 + h.height.toNat * h.width.bytes

end Header

end BitmapFont
