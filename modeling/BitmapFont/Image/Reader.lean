import BitmapFont.Font
import BitmapFont.Image.LittleEndian
import BitmapFont.Text.Numeral

/-!
# Reading font files

A font file is read only if it is complete, has nothing after its last glyph and gives each index
to one glyph. The first check that fails is the error that is reported.

## Main definitions

- `ReadError` — the checks, in the order in which they are made
- `read` — the font that a file holds
-/

namespace BitmapFont.Image

/-- Why a file is not a font file. -/
inductive ReadError
  | tooShort
  | wrongMagic
  | unsupportedVersion (version : UInt8)
  | unknownCharset (tag : UInt8)
  | unsupportedWidth (bits : UInt8)
  | nameUnterminated
  | nameNotAscii
  | wrongLength (expected : Nat) (glyphCount : UInt8) (found : Nat)
  /-- The bytes end within a glyph, which a file of the right length rules out. -/
  | unexpectedEnd
  | duplicateIndex (index : UInt8)
  deriving DecidableEq

/-- The text of an error. -/
def ReadError.message : ReadError → String
  | tooShort => "File is too short to contain a BFF header."
  | wrongMagic => "Incorrect BFF magic number."
  | unsupportedVersion version => s!"Unsupported BFF version: {version}"
  | unknownCharset tag => s!"Unknown charset tag: {tag}"
  | unsupportedWidth bits => s!"Unsupported font width: {bits}"
  | nameUnterminated => "Font name is not NUL-terminated."
  | nameNotAscii => "Font name is not ASCII."
  | wrongLength expected glyphCount found =>
    s!"BFF file should be {expected} bytes for {glyphCount} glyphs, found {found} bytes."
  | unexpectedEnd => "failed to fill whole buffer"
  | duplicateIndex index => s!"Duplicate glyph index: {Text.hexByte index}"

/-- A check: it fails with the error unless the condition holds. -/
def require (condition : Prop) [Decidable condition] (e : ReadError) : Except ReadError Unit :=
  if condition then .ok () else .error e

/-- The given number of bytes from the start of the data, and the rest. -/
def takeBytes : Nat → List UInt8 → Except ReadError (List UInt8 × List UInt8)
  | 0, data => .ok ([], data)
  | _ + 1, [] => .error .unexpectedEnd
  | count + 1, b :: data => do
    let (bytes, rest) ← takeBytes count data
    return (b :: bytes, rest)

/-- The given number of rows from the start of the data, and the rest. -/
def readRows (width : RowWidth) : Nat → List UInt8 → Except ReadError (List UInt64 × List UInt8)
  | 0, data => .ok ([], data)
  | count + 1, data => do
    let (bytes, rest) ← takeBytes width.bytes data
    let (rows, rest) ← readRows width count rest
    return (UInt64.ofNat (decodeNumber bytes) :: rows, rest)

/-- The given number of glyphs from the start of the data, none with an index that was seen
before, and the rest. -/
def readGlyphs (width : RowWidth) (height : Nat) :
    Nat → List UInt8 → List UInt8 → Except ReadError (List Glyph × List UInt8)
  | 0, _, data => .ok ([], data)
  | _ + 1, _, [] => .error .unexpectedEnd
  | count + 1, seen, index :: data => do
    require (index ∉ seen) (.duplicateIndex index)
    let (rows, rest) ← readRows width height data
    let (glyphs, rest) ← readGlyphs width height count (index :: seen) rest
    return (⟨index, rows⟩ :: glyphs, rest)

/-- The header at the start of the data, and the rest. The data is longer than a header without a
name. -/
def readHeader (data : List UInt8) : Except ReadError (Header × List UInt8) := do
  match data with
  | m₀ :: m₁ :: version :: tag :: bits :: height :: count :: red :: green :: blue :: body =>
    require (body ≠ []) .tooShort
    require ([m₀, m₁] = Header.magic) .wrongMagic
    require (version = Header.version) (.unsupportedVersion version)
    require (Charset.ofTag? tag).isSome (.unknownCharset tag)
    let some width := RowWidth.ofBits? bits.toNat | throw (.unsupportedWidth bits)
    let _ :: rest := body.dropWhile (· != 0) | throw .nameUnterminated
    let name := body.takeWhile (· != 0)
    require (name.all (·.toNat < 128)) .nameNotAscii
    let name := String.ofList (name.map fun b => Char.ofNat b.toNat)
    return (⟨tag, width, height, count, ⟨red, green, blue⟩, name⟩, rest)
  | _ => throw .tooShort

/-- The font that a file holds. -/
def read (data : List UInt8) : Except ReadError Font := do
  let (header, rest) ← readHeader data
  let expected := header.encodedLength + header.glyphCount.toNat * header.recordLength
  require (data.length = expected) (.wrongLength expected header.glyphCount data.length)
  let (glyphs, _) ← readGlyphs header.width header.height.toNat header.glyphCount.toNat [] rest
  return ⟨header, glyphs⟩

end BitmapFont.Image
