import BitmapFont.Charset
import BitmapFont.Header

/-!
# Fonts

A font is a header together with its glyphs, each of which is found by the index that the font's
character set gives to a character.

## Main definitions

- `Glyph.pixel` — whether a pixel of a glyph is set
- `Font.glyph?`, `Font.glyphForChar?` — the glyph with an index, the glyph of a character
- `Font.statistics` — a description of a font for its author
-/

namespace BitmapFont

/-- One glyph: its index and its rows from top to bottom. In a row the most significant of the
font's bits is the leftmost pixel. -/
structure Glyph where
  index : UInt8
  rows : List UInt64
  deriving DecidableEq

/-- Whether the pixel in column `x` and row `y` is set, where columns count from the left and rows
from the top. No pixel outside the glyph is set. -/
def Glyph.pixel (g : Glyph) (width : RowWidth) (x y : UInt8) : Bool :=
  match g.rows[y.toNat]? with
  | some row => x.toNat < width.bits && row.toNat.testBit (width.bits - 1 - x.toNat)
  | none => false

/-- A font: the properties of the whole and the glyphs in the order of the file. -/
structure Font where
  header : Header
  glyphs : List Glyph
  deriving DecidableEq

namespace Font

/-- The character set of a font. A tag without a character set stands for ASCII. -/
def charset (f : Font) : Charset :=
  (Charset.ofTag? f.header.charsetTag).getD .ascii

/-- The first glyph with a given index. -/
def glyph? (f : Font) (index : UInt8) : Option Glyph :=
  f.glyphs.find? (·.index == index)

/-- The glyph that draws a character. -/
def glyphForChar? (f : Font) (c : Char) : Option Glyph :=
  (f.charset.encode c).bind f.glyph?

/-- The characters that a font draws, in the order of the file. -/
def characters (f : Font) : List Char :=
  f.charset.decodeAll (f.glyphs.map (·.index))

/-- The rule between the parts of printed statistics. -/
def ruler : String := String.ofList (List.replicate 66 '=')

/-- The lines that describe a font. -/
def statistics (f : Font) : List String :=
  ["",
   ruler,
   "Font Statistics",
   ruler,
   "Font Name      : " ++ f.header.name,
   "Charset        : " ++ f.charset.name,
   "Glyph Size     : " ++ toString f.header.width.bits ++ "x" ++ toString f.header.height,
   "Default Color  : " ++ f.header.color.describe,
   "Glyph Count    : " ++ toString f.glyphs.length,
   "Characters     : " ++ String.ofList f.characters,
   ruler,
   ""]

end Font

end BitmapFont
