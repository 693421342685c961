import BitmapFont.Directives
import BitmapFont.FontSettings
import BitmapFont.Noted
import BitmapFont.Path

/-!
# Projects

A project is the settings of a font together with the file that defines its glyphs. It is described
by directives with certain keys.
-/

namespace BitmapFont

/-- The settings of a font and the file that defines its glyphs. -/
structure Project where
  settings : FontSettings
  glyphFile : Path
  deriving DecidableEq

/-- Why directives do not describe a project. -/
inductive ProjectError
  | noFileName (project : Path)
  | glyphFileNotFound (path : Path)
  | missing (key : String)
  | notByte (key value : String)
  | unsupportedCharset (name : String)
  | unsupportedWidth (bits : Nat)
  deriving DecidableEq

/-- The text of an error. -/
def ProjectError.message : ProjectError → String
  | noFileName project => s!"Project path {project.text} has no file name."
  | glyphFileNotFound path => s!"Font file {path.text} not found."
  | missing key => s!"Font parameter {key} not found."
  | notByte key value => s!"Invalid {key} found: {value} is not a valid UInt8 value."
  | unsupportedCharset name => s!"Unsupported/unimplemented CHARSET found: {name} is not supported."
  | unsupportedWidth bits =>
    s!"Unsupported/unimplemented FONT_WIDTH found: {bits} is not supported."

namespace Project

/-- The keys that have a meaning in a project file. -/
inductive Key
  | fontFile
  | charset
  | fontWidth
  | fontHeight
  | red
  | green
  | blue
  | fontName
  deriving DecidableEq

/-- A key as it is written. -/
def Key.name : Key → String
  | fontFile => "FONT_FILE"
  | charset => "CHARSET"
  | fontWidth => "FONT_WIDTH"
  | fontHeight => "FONT_HEIGHT"
  | red => "DEFAULT_RGB_R"
  | green => "DEFAULT_RGB_G"
  | blue => "DEFAULT_RGB_B"
  | fontName => "FONT_NAME"

/-- The value of a key. -/
def value? (directives : Directives) (key : Key) : Option String :=
  directives.get? key.name

/-- The extension of glyph sources. -/
def glyphExtension : String := "rbf"

/-- The name of fonts that choose none. -/
def defaultName : String := "FONT"

end Project

end BitmapFont
