import BitmapFont.Charset
import BitmapFont.Header

/-!
# Font settings

What a project decides about a font before any glyph is known.
-/

namespace BitmapFont

/-- The properties of a font that do not depend on its glyphs. -/
structure FontSettings where
  charset : Charset
  width : RowWidth
  height : UInt8
  color : Color
  name : String
  deriving DecidableEq

/-- The header of a font with these settings and a given number of glyphs. -/
def FontSettings.header (s : FontSettings) (glyphCount : UInt8) : Header where
  charsetTag := s.charset.tag
  width := s.width
  height := s.height
  glyphCount := glyphCount
  color := s.color
  name := s.name

end BitmapFont
