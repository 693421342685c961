import BitmapFont.Font
import BitmapFont.Image.Writer
import BitmapFont.Proofs.Text.Ascii

/-!
# The layout of font files

A font file is the header followed by the glyphs, each of which is its index followed by its rows.
The layout determines the font, if the font is well formed.

## Main definitions

- `Font.WellFormed` — a font that a file can hold
- `Font.WellShaped` — the same, but for indices that may come again
- `Image.glyphBytes`, `Image.fontBytes` — the bytes of a glyph, the bytes of a font
-/

namespace BitmapFont

/-- Whether a font file can hold a name: it ends with the first zero byte, and each byte before is
a character of ASCII. -/
def Storable (name : String) : Prop :=
  ∀ c ∈ name.toList, c.toNat < 128 ∧ c ≠ '\x00'

instance (name : String) : Decidable (Storable name) :=
  List.decidableBAll _ name.toList

/-- A font that a file can hold. -/
structure Font.WellFormed (f : Font) : Prop where
  charset : ∃ charset ∈ Charset.all, charset.tag = f.header.charsetTag
  name : Storable f.header.name
  count : f.header.glyphCount.toNat = f.glyphs.length
  height : ∀ g ∈ f.glyphs, g.rows.length = f.header.height.toNat
  width : ∀ g ∈ f.glyphs, ∀ row ∈ g.rows, row.toNat ≤ f.header.width.maxValue
  distinct : (f.glyphs.map (·.index)).Nodup

/-- A font whose header tells its shape and can be written. Its indices may come again. -/
structure Font.WellShaped (f : Font) : Prop where
  charset : ∃ charset ∈ Charset.all, charset.tag = f.header.charsetTag
  name : Storable f.header.name
  count : f.header.glyphCount.toNat = f.glyphs.length
  height : ∀ g ∈ f.glyphs, g.rows.length = f.header.height.toNat
  width : ∀ g ∈ f.glyphs, ∀ row ∈ g.rows, row.toNat ≤ f.header.width.maxValue

theorem Font.wellFormed_iff {f : Font} :
    f.WellFormed ↔ f.WellShaped ∧ (f.glyphs.map (·.index)).Nodup :=
  ⟨fun h => ⟨⟨h.charset, h.name, h.count, h.height, h.width⟩, h.distinct⟩,
    fun ⟨h, distinct⟩ => ⟨h.charset, h.name, h.count, h.height, h.width, distinct⟩⟩

namespace Image

open Text (toNat_byte_of_lt_128 toNat_ofNat_of_lt_128)

/-- The bytes of a glyph none of whose rows is too wide. -/
def glyphBytes (width : RowWidth) (g : Glyph) : List UInt8 :=
  g.index :: g.rows.flatMap (rowBytes width)

/-- The bytes of a well-formed font. -/
def fontBytes (f : Font) : List UInt8 :=
  headerBytes f.header ++ f.glyphs.flatMap (glyphBytes f.header.width)

/-- The characters of ASCII bytes. -/
def nameOfBytes (bytes : List UInt8) : String :=
  String.ofList (bytes.map fun b => Char.ofNat b.toNat)

/-- The bytes of ASCII characters. -/
def bytesOfName (name : String) : List UInt8 :=
  name.toList.map fun c => UInt8.ofNat c.toNat

/-- A name that can be stored is read back. -/
theorem nameOfBytes_bytesOfName {name : String} (h : Storable name) :
    nameOfBytes (bytesOfName name) = name := by
  have chars : name.toList.map (fun c => Char.ofNat (UInt8.ofNat c.toNat).toNat)
      = name.toList.map id := by
    refine List.map_congr_left fun c hc => ?_
    rw [toNat_byte_of_lt_128 (h c hc).1, Char.ofNat_toNat, id]
  rw [nameOfBytes, bytesOfName, List.map_map]
  exact (congrArg String.ofList chars).trans (by rw [List.map_id, String.ofList_toList])

theorem bytesOfName_nameOfBytes {bytes : List UInt8} (h : ∀ b ∈ bytes, b.toNat < 128) :
    bytesOfName (nameOfBytes bytes) = bytes := by
  have same : bytes.map (fun b => UInt8.ofNat (Char.ofNat b.toNat).toNat) = bytes.map id := by
    refine List.map_congr_left fun b hb => ?_
    rw [toNat_ofNat_of_lt_128 (h b hb), UInt8.ofNat_toNat, id]
  rw [nameOfBytes, bytesOfName, String.toList_ofList, List.map_map]
  exact same.trans (List.map_id bytes)

theorem mem_bytesOfName {name : String} (h : Storable name) {b : UInt8}
    (hb : b ∈ bytesOfName name) : b.toNat < 128 ∧ b ≠ 0 := by
  obtain ⟨c, hc, rfl⟩ := List.mem_map.1 hb
  obtain ⟨small, nonzero⟩ := h c hc
  have value := toNat_byte_of_lt_128 small
  refine ⟨by omega, fun zero => nonzero ?_⟩
  rw [zero] at value
  rw [← Char.ofNat_toNat c, ← value]
  rfl

theorem storable_nameOfBytes {bytes : List UInt8}
    (h : ∀ b ∈ bytes, b.toNat < 128 ∧ b ≠ 0) : Storable (nameOfBytes bytes) := by
  intro c hc
  rw [nameOfBytes, String.toList_ofList] at hc
  obtain ⟨b, hb, rfl⟩ := List.mem_map.1 hc
  obtain ⟨small, nonzero⟩ := h b hb
  refine ⟨by rwa [toNat_ofNat_of_lt_128 small], fun zero => nonzero ?_⟩
  have value := congrArg Char.toNat zero
  rw [toNat_ofNat_of_lt_128 small] at value
  exact UInt8.toNat_inj.1 value

/-- A header with a storable name takes the bytes that its encoded length tells. -/
theorem length_headerBytes {h : Header} (name : Storable h.name) :
    (headerBytes h).length = h.encodedLength := by
  have ascii := Text.utf8Length_of_ascii fun c hc => (name c hc).1
  simp only [headerBytes, Header.magic, Header.encodedLength, Header.nameOffset, ascii,
    List.length_append, List.length_cons, List.length_nil, List.length_map]

@[simp] theorem length_rowBytes (width : RowWidth) (row : UInt64) :
    (rowBytes width row).length = width.bytes := by
  simp [rowBytes]

theorem length_flatMap_rowBytes (width : RowWidth) (rows : List UInt64) :
    (rows.flatMap (rowBytes width)).length = rows.length * width.bytes := by
  induction rows with
  | nil => simp
  | cons row rest ih => simp [ih, Nat.add_mul, Nat.add_comm]

theorem length_glyphBytes (width : RowWidth) (g : Glyph) :
    (glyphBytes width g).length = 1 + g.rows.length * width.bytes := by
  rw [glyphBytes, List.length_cons, length_flatMap_rowBytes, Nat.add_comm]

/-- Glyphs of one shape take the same number of bytes each. -/
theorem length_flatMap_glyphBytes (width : RowWidth) {height : Nat} {glyphs : List Glyph}
    (shapes : ∀ g ∈ glyphs, g.rows.length = height) :
    (glyphs.flatMap (glyphBytes width)).length = glyphs.length * (1 + height * width.bytes) := by
  induction glyphs with
  | nil => simp
  | cons g rest ih =>
    obtain ⟨first, others⟩ := List.forall_mem_cons.1 shapes
    rw [List.flatMap_cons, List.length_append, ih others, length_glyphBytes, first,
      List.length_cons, Nat.add_mul, Nat.one_mul, Nat.add_comm]

end Image

end BitmapFont
