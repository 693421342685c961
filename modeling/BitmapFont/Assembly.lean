import BitmapFont.GlyphSource
import BitmapFont.Image.Writer

/-!
# Assembling fonts

A font file is assembled from its settings and a stream of glyph definitions. The glyphs are
written first, on their own, because the header before them tells their number.

## Main definitions

- `assemble` — the font file with given settings and glyphs
- `buildFont` — the font file that a glyph source describes
-/

namespace BitmapFont

/-- Why a font cannot be assembled from a stream whose own errors have type `ε`. -/
inductive AssemblyError (ε : Type)
  | stream (cause : ε)
  | tooManyGlyphs
  | wrongHeight (char : Char) (found expected : Nat)
  | write (cause : Image.WriteError)
  deriving DecidableEq

/-- The text of an error, followed by the texts of its causes. -/
def AssemblyError.chain {ε : Type} (streamChain : ε → List String) :
    AssemblyError ε → List String
  | stream cause => streamChain cause
  | tooManyGlyphs =>
    [s!"Too many glyphs: a BFF file can hold at most {Header.maxGlyphs} glyphs."]
  | wrongHeight char found expected =>
    [s!"Glyph for {char} has {found} rows, expected {expected}."]
  | write cause => [cause.message]

/-- The outcome of a write as a step of an assembly. -/
def AssemblyError.ofWrite {ε : Type} (outcome : Except Image.WriteError Unit × Image.Writer) :
    Except (AssemblyError ε) Image.Writer :=
  match outcome with
  | (.ok (), writer) => .ok writer
  | (.error e, _) => .error (.write e)

/-- Writes one glyph of a stream, the one with number `count`. -/
def writeDefinition {ε : Type} (settings : FontSettings) (count : Nat) (writer : Image.Writer)
    (d : GlyphDefinition) : Except (AssemblyError ε) Image.Writer :=
  if Header.maxGlyphs < count then .error .tooManyGlyphs
  else if d.rows.length ≠ settings.height.toNat then
    .error (.wrongHeight d.char d.rows.length settings.height.toNat)
  else AssemblyError.ofWrite (writer.writeGlyph settings.width d.index d.rows)

/-- Writes the glyphs of a stream after `count` others. Gives their number together with those
before. -/
def writeDefinitions {ε : Type} (settings : FontSettings) :
    Nat → Image.Writer → List (Except ε GlyphDefinition) →
      Except (AssemblyError ε) (Nat × Image.Writer)
  | count, writer, [] => .ok (count, writer)
  | _, _, .error e :: _ => .error (.stream e)
  | count, writer, .ok d :: rest => do
    let writer ← writeDefinition settings (count + 1) writer d
    writeDefinitions settings (count + 1) writer rest

/-- The font file with given settings and glyphs. -/
def assemble {ε : Type} (settings : FontSettings) (items : List (Except ε GlyphDefinition)) :
    Except (AssemblyError ε) (List UInt8) := do
  let (count, body) ← writeDefinitions settings 0 .empty items
  let header := settings.header (UInt8.ofNat count)
  let image ← AssemblyError.ofWrite (Image.Writer.empty.writeHeader header)
  return (image.append body).data

/-- The font file that a glyph source describes, and the session after it. -/
def buildFont (settings : FontSettings) (text : String) (session : Session) :
    Except (AssemblyError GlyphError) (List UInt8) × Session :=
  let (items, session) := GlyphSource.read settings text session
  (assemble settings items, session)

end BitmapFont
