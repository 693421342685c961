import BitmapFont.Font
import BitmapFont.Path
import BitmapFont.Text.Numeral

/-!
# Compilation reports

What a successful compilation tells about the font file that it has written.
-/

namespace BitmapFont

/-- What a successful compilation has made. -/
structure Report where
  output : Path
  fontName : String
  /-- The characters in use after the compilation, in the order of their definition. -/
  characters : List Char
  /-- The number of bytes of the font file. -/
  size : Nat
  deriving DecidableEq

/-- The number of thousandths of a millisecond in milliseconds. -/
def milliseconds (micros : Nat) : String :=
  Text.digits 10 (micros / 1000) ++ "." ++ Text.paddedDigits 10 3 (micros % 1000)

/-- The lines that describe a compilation that took a number of microseconds. -/
def Report.statistics (r : Report) (micros : Nat) : List String :=
  ["",
   Font.ruler,
   "Compilation succeeded",
   Font.ruler,
   "Output         : " ++ r.output.text,
   "Font Name      : " ++ r.fontName,
   "File Size      : " ++ toString r.size ++ " bytes",
   "Time Elapsed   : " ++ milliseconds micros ++ " ms",
   "Glyph Count    : " ++ toString r.characters.length,
   "Characters     : " ++ ", ".intercalate (r.characters.map Char.toString),
   Font.ruler,
   ""]

end BitmapFont
