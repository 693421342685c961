import BitmapFont.Proofs.Assembly

/-!
# Counting glyphs afterwards

A font file can also be written in a single pass, with a header that counts no glyph, if the number
of glyphs is put over that count when all of them have been written. This gives the same file as
writing the glyphs first.

## Main definitions

- `patchedFont` — the font file written in a single pass
-/

namespace BitmapFont

open Image (Writer)

/-- The font file written in a single pass: the header with a count of zero, then each glyph in its
order, and last the number of glyphs in the place of the count. -/
def patchedFont (settings : FontSettings) (definitions : List GlyphDefinition) :
    Except Image.WriteError (List UInt8) := do
  let writer ← Writer.after (Writer.empty.writeHeader (settings.header 0))
  let writer ← Writer.writeGlyphs settings.width writer (definitions.map (·.glyph))
  return writer.data.set Header.glyphCountOffset (UInt8.ofNat definitions.length)

/-- The count stands before the name, so that its place is the same in every file. -/
theorem Image.set_glyphCount (h : Header) (count : UInt8) (rest : List UInt8) :
    (headerBytes h ++ rest).set Header.glyphCountOffset count =
      headerBytes { h with glyphCount := count } ++ rest := rfl

theorem Image.getElem?_glyphCount (h : Header) (rest : List UInt8) :
    (headerBytes h ++ rest)[Header.glyphCountOffset]? = some h.glyphCount := rfl

/-- A single pass gives the layout of the font, if its name is storable and no row is too wide. -/
theorem patchedFont_eq_ok_iff {settings : FontSettings} {definitions : List GlyphDefinition}
    {image : List UInt8} :
    patchedFont settings definitions = .ok image ↔
      Storable settings.name ∧
        (∀ d ∈ definitions, ∀ row ∈ d.rows, row.toNat ≤ settings.width.maxValue) ∧
          image = Image.fontBytes (settings.font definitions) := by
  have whole (glyphs : List UInt8) :
      ((Writer.empty.data ++ Image.headerBytes (settings.header 0)) ++ glyphs).set
          Header.glyphCountOffset (UInt8.ofNat definitions.length) =
        Image.headerBytes (settings.header (UInt8.ofNat definitions.length)) ++ glyphs := by
    exact Image.set_glyphCount (settings.header 0) _ glyphs
  simp only [patchedFont, bind_eq_ok_iff, pure_eq_ok_iff, Writer.writeHeader_eq_ok_iff,
    Writer.writeGlyphs_eq_ok_iff, List.forall_mem_map]
  constructor
  · rintro ⟨_, ⟨name, rfl⟩, _, ⟨width, rfl⟩, rfl⟩
    exact ⟨name, width, whole _⟩
  · rintro ⟨name, width, rfl⟩
    exact ⟨_, ⟨name, rfl⟩, _, ⟨width, rfl⟩, whole _⟩

/-- A font that is assembled from a stream is the one that a single pass over its glyphs gives, with
their number in the place of the count. For glyphs of the right height, as many as a file can have,
the one is made if and only if the other is. -/
theorem assemble_eq_patchedFont {ε : Type} (settings : FontSettings) :
    (∀ (items : List (Except ε GlyphDefinition)) (image : List UInt8),
      assemble settings items = .ok image →
        ∃ definitions : List GlyphDefinition, items = definitions.map .ok ∧
          patchedFont settings definitions = .ok image ∧
          ∃ count, image[Header.glyphCountOffset]? = some count ∧
            count.toNat = definitions.length) ∧
    ∀ definitions : List GlyphDefinition, definitions.length ≤ 255 →
      (∀ d ∈ definitions, d.rows.length = settings.height.toNat) →
      ∀ image, assemble (ε := ε) settings (definitions.map .ok) = .ok image ↔
        patchedFont settings definitions = .ok image := by
  constructor
  · intro items image assembled
    obtain ⟨definitions, rfl, bound, fits, name, rfl⟩ := assemble_eq_ok_iff.1 assembled
    have width : ∀ d ∈ definitions, ∀ row ∈ d.rows, row.toNat ≤ settings.width.maxValue :=
      fun d hd => (fits d hd).2
    exact ⟨definitions, rfl, patchedFont_eq_ok_iff.2 ⟨name, width, rfl⟩,
      _, Image.getElem?_glyphCount _ _, toNat_glyphCount bound⟩
  · intro definitions bound height image
    rw [assemble_eq_ok_iff, patchedFont_eq_ok_iff]
    constructor
    · rintro ⟨others, same, _, fits, name, rfl⟩
      obtain rfl : definitions = others := List.map_injective_iff.2 (fun _ _ => Except.ok.inj) same
      exact ⟨name, fun d hd => (fits d hd).2, rfl⟩
    · rintro ⟨name, width, rfl⟩
      exact ⟨definitions, rfl, bound, fun d hd => ⟨height d hd, width d hd⟩, name, rfl⟩

/-- A font of two glyphs with rows of two bytes. A row that is too wide is refused both ways. -/
theorem assemble_eq_patchedFont_two_glyphs :
    let settings : FontSettings := ⟨.ascii, .w16, 1, .white, "Fo"⟩
    let definitions : List GlyphDefinition := [⟨'A', 0x41, [0x8001]⟩, ⟨'B', 0x42, [0xFF]⟩]
    let wide : List GlyphDefinition := [⟨'A', 0x41, [0x10000]⟩]
    let image : List UInt8 := [0xBF, 0xFF, 1, 0, 16, 1, 2, 255, 255, 255, 0x46, 0x6F, 0,
      0x41, 0x01, 0x80, 0x42, 0xFF, 0x00]
    assemble (ε := GlyphError) settings (definitions.map .ok) = .ok image ∧
      patchedFont settings definitions = .ok image ∧
      (∃ count, image[Header.glyphCountOffset]? = some count ∧ count.toNat = 2) ∧
      (∀ other, assemble (ε := GlyphError) settings (wide.map .ok) ≠ .ok other) ∧
      ∀ other, patchedFont settings wide ≠ .ok other := by
  intro settings definitions wide image
  have assembled : assemble (ε := GlyphError) settings (definitions.map .ok) = .ok image := by
    decide +kernel
  have refused : assemble (ε := GlyphError) settings (wide.map .ok) =
      .error (.write (.rowTooWide 0x10000 .w16 0x41)) := by
    decide +kernel
  obtain ⟨forward, backward⟩ := assemble_eq_patchedFont (ε := GlyphError) settings
  obtain ⟨found, same, patched, counted⟩ := forward _ _ assembled
  obtain rfl : definitions = found := List.map_injective_iff.2 (fun _ _ => Except.ok.inj) same
  have never (other : List UInt8) :
      assemble (ε := GlyphError) settings (wide.map .ok) ≠ .ok other := by
    rw [refused]
    exact nofun
  refine ⟨assembled, patched, counted, never, fun other wrote => never other ?_⟩
  exact (backward wide (by decide) (by simp [wide, settings]) other).2 wrote

end BitmapFont
