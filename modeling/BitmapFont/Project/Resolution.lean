import BitmapFont.Project.GlyphFile
import BitmapFont.Text.Numeral
import BitmapFont.Text.Quoted

/-!
# Resolving projects

The values of a project are settled one after the other, and the first that cannot be settled is
the error. Each value that is settled is noted, and each value that is replaced is warned about.

## Main definitions

- `Project.colorComponent`, `Project.storedName` — values that are replaced if need be
- `Project.resolve` — the project that directives describe
-/

namespace BitmapFont

namespace Project

/-- The value of a key that a project must have. -/
def required (directives : Directives) (key : Key) : Noted ProjectError String :=
  match value? directives key with
  | some value => return value
  | none => .fail (.missing key.name)

/-- The value of a required key, which must be a byte. -/
def requiredByte (directives : Directives) (key : Key) : Noted ProjectError UInt8 := do
  let value ← required directives key
  match Text.byte? value.toList with
  | some b => return b
  | none => .fail (.notByte key.name value)

/-- The character set of a project. -/
def charset (directives : Directives) : Noted ProjectError Charset := do
  let name := Text.upperCase (← required directives .charset)
  match Charset.ofName? name with
  | some charset => do
    .note (.info s!"CHARSET:{charset.name}")
    return charset
  | none => .fail (.unsupportedCharset name)

/-- The row width of a project. -/
def width (directives : Directives) : Noted ProjectError RowWidth := do
  let bits ← requiredByte directives .fontWidth
  match RowWidth.ofBits? bits.toNat with
  | some width => do
    .note (.info s!"FONT_WIDTH:{width.bits}")
    return width
  | none => .fail (.unsupportedWidth bits.toNat)

/-- The glyph height of a project. -/
def height (directives : Directives) : Noted ProjectError UInt8 := do
  let height ← requiredByte directives .fontHeight
  .note (.info s!"FONT_HEIGHT:{height}")
  return height

/-- A component of the color of a project. It is 255 unless the project gives a byte for it. -/
def colorComponent (directives : Directives) (key : Key) : Noted ProjectError UInt8 :=
  match value? directives key with
  | none => do
    .note (.info s!"{key.name} is not set. Set to default value 255.")
    return 255
  | some value =>
    match Text.byte? value.toList with
    | some b => do
      .note (.info s!"{key.name}:{b}")
      return b
    | none => do
      .note (.warn none (s!"Invalid {key.name} found: {value} is not a valid UInt8 value. "
        ++ "Set to default value 255."))
      return 255

/-- The color of a project. -/
def color (directives : Directives) : Noted ProjectError Color := do
  let red ← colorComponent directives .red
  let green ← colorComponent directives .green
  let blue ← colorComponent directives .blue
  return ⟨red, green, blue⟩

/-- A name as it can be stored: a question mark takes the place of each character that is not
ASCII and of each zero character. -/
def storedName (name : String) : String :=
  String.ofList (name.toList.map fun c => if c.toNat < 128 ∧ c ≠ '\x00' then c else '?')

/-- The name that a project asks for. -/
def requestedName (directives : Directives) : Noted ProjectError String :=
  match value? directives .fontName with
  | some name => return name
  | none => do
    .note (.info s!"FONT_NAME is not set. Set to default value \"{defaultName}\".")
    return defaultName

/-- The name of the font of a project. -/
def fontName (directives : Directives) : Noted ProjectError String := do
  let name ← requestedName directives
  let stored := storedName name
  if stored ≠ name then
    .note (.warn none (s!"FONT_NAME {Text.quoted name} is not ASCII. "
      ++ s!"It will be stored as {Text.quoted stored}."))
  .note (.info s!"FONT_NAME:{stored}")
  return stored

/-- The project that the directives of a project file describe. -/
def resolve (directives : Directives) (projectPath workingDir : Path) (fs : FileSystem) :
    Noted ProjectError Project := do
  let glyphFile ← locate directives projectPath workingDir fs
  let charset ← charset directives
  let width ← width directives
  let height ← height directives
  let color ← color directives
  let name ← fontName directives
  return ⟨⟨charset, width, height, color, name⟩, glyphFile⟩

end Project

end BitmapFont
