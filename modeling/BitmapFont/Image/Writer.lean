import BitmapFont.Header
import BitmapFont.Image.LittleEndian
import BitmapFont.Text.Quoted

/-!
# Writing font files

A writer collects the bytes of a font file. It writes headers and glyphs in the order it is told
and does not compare them with each other.

## Main definitions

- `Writer.writeHeader` — writes a header, or nothing if the name cannot be stored
- `Writer.writeGlyph` — writes a glyph, up to the first row that is too wide
- `Writer.append` — writes what another writer holds
-/

namespace BitmapFont.Image

/-- Why a header or a glyph cannot be written. -/
inductive WriteError
  | nameNotAscii (name : String)
  | nameHasNul (name : String)
  | rowTooWide (row : UInt64) (width : RowWidth) (index : UInt8)
  deriving DecidableEq

/-- The text of an error. -/
def WriteError.message : WriteError → String
  | nameNotAscii name => s!"Font name {Text.quoted name} is not ASCII."
  | nameHasNul name => s!"Font name {Text.quoted name} contains a NUL."
  | rowTooWide row width index =>
    s!"Row value {Text.binary row.toNat} does not fit in {width.bits} bits "
      ++ s!"(glyph index {Text.hexByte index})."

/-- The bytes of a header whose name is ASCII and has no zero character. -/
def headerBytes (h : Header) : List UInt8 :=
  Header.magic
    ++ [Header.version, h.charsetTag, UInt8.ofNat h.width.bits, h.height, h.glyphCount,
        h.color.red, h.color.green, h.color.blue]
    ++ h.name.toList.map (fun c => UInt8.ofNat c.toNat)
    ++ [0]

/-- The bytes of a row that is not too wide. -/
def rowBytes (width : RowWidth) (row : UInt64) : List UInt8 :=
  encodeNumber width.bytes row.toNat

/-- The bytes of a font file that have been written so far. -/
structure Writer where
  data : List UInt8
  deriving DecidableEq

namespace Writer

/-- The writer that has written nothing. -/
def empty : Writer := ⟨[]⟩

/-- Writes a header. Nothing is written if the name has a character that is not ASCII, or else a
zero character. -/
def writeHeader (w : Writer) (h : Header) : Except WriteError Unit × Writer :=
  if h.name.toList.all (·.toNat < 128) then
    if '\x00' ∈ h.name.toList then (.error (.nameHasNul h.name), w)
    else (.ok (), ⟨w.data ++ headerBytes h⟩)
  else (.error (.nameNotAscii h.name), w)

/-- Writes a glyph. If a row is too wide, the index and the rows before it are written all the
same. -/
def writeGlyph (w : Writer) (width : RowWidth) (index : UInt8) (rows : List UInt64) :
    Except WriteError Unit × Writer :=
  (match rows.find? (fun row => !width.holds row) with
    | some row => .error (.rowTooWide row width index)
    | none => .ok (),
   ⟨w.data ++ index :: (rows.takeWhile width.holds).flatMap (rowBytes width)⟩)

/-- Writes what another writer holds. -/
def append (w other : Writer) : Writer :=
  ⟨w.data ++ other.data⟩

end Writer

end BitmapFont.Image
