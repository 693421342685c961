import BitmapFont.Assembly
import BitmapFont.Proofs.Image.Writing

/-!
# What assembling makes

A font is assembled from a stream without an error, if the header can count its glyphs and every
glyph has the shape that the settings give. The file is then the layout of the font.
-/

namespace BitmapFont

/-- The glyph that a definition gives to its index. -/
def GlyphDefinition.glyph (d : GlyphDefinition) : Glyph := ⟨d.index, d.rows⟩

/-- The font with given settings and definitions. -/
def FontSettings.font (settings : FontSettings) (definitions : List GlyphDefinition) : Font :=
  ⟨settings.header (UInt8.ofNat definitions.length), definitions.map (·.glyph)⟩

/-- Whether a definition has the height and the width of the settings. -/
def FontSettings.Fits (settings : FontSettings) (d : GlyphDefinition) : Prop :=
  d.rows.length = settings.height.toNat ∧ ∀ row ∈ d.rows, row.toNat ≤ settings.width.maxValue

variable {ε : Type} {settings : FontSettings}

theorem ofWrite_eq_ok_iff {outcome : Except Image.WriteError Unit × Image.Writer}
    {w : Image.Writer} :
    AssemblyError.ofWrite (ε := ε) outcome = .ok w ↔ Image.Writer.after outcome = .ok w := by
  obtain ⟨result, written⟩ := outcome
  cases result with
  | error e => simp [AssemblyError.ofWrite, Image.Writer.after]
  | ok _ => simp [AssemblyError.ofWrite, Image.Writer.after]

/-- A definition is written if it fits and the header can count it. -/
theorem writeDefinition_eq_ok_iff {count : Nat} {w w' : Image.Writer} {d : GlyphDefinition} :
    writeDefinition (ε := ε) settings count w d = .ok w' ↔
      count ≤ Header.maxGlyphs ∧ settings.Fits d ∧
        w' = ⟨w.data ++ Image.glyphBytes settings.width d.glyph⟩ := by
  unfold writeDefinition
  by_cases many : Header.maxGlyphs < count
  · simp [many, Nat.not_le.2 many]
  · by_cases height : d.rows.length = settings.height.toNat
    · simp only [many, height, ne_eq, not_true_eq_false, if_false, ofWrite_eq_ok_iff,
        Image.Writer.writeGlyph_eq_ok_iff, FontSettings.Fits, true_and, Nat.not_lt.1 many]
      rfl
    · simp [many, height, FontSettings.Fits]

/-- A stream is written if it has no error, each of its definitions fits, and the header can count
them together with those before. -/
theorem writeDefinitions_eq_ok_iff {count total : Nat} {w w' : Image.Writer}
    {items : List (Except ε GlyphDefinition)} (countable : count ≤ Header.maxGlyphs) :
    writeDefinitions settings count w items = .ok (total, w') ↔
      ∃ definitions : List GlyphDefinition, items = definitions.map .ok ∧
        count + definitions.length ≤ Header.maxGlyphs ∧ (∀ d ∈ definitions, settings.Fits d) ∧
          total = count + definitions.length ∧
            w' = ⟨w.data
              ++ (definitions.map (·.glyph)).flatMap (Image.glyphBytes settings.width)⟩ := by
  -- The count stays within the limit, so that the bound on the whole is one on each step.
  induction items generalizing count w with
  | nil =>
    simp only [writeDefinitions, Except.ok.injEq, Prod.mk.injEq]
    constructor
    · rintro ⟨rfl, rfl⟩
      exact ⟨[], by simpa using countable⟩
    · rintro ⟨definitions, empty, -, -, rfl, rfl⟩
      obtain rfl := List.map_eq_nil_iff.1 empty.symm
      simp
  | cons item rest ih =>
    cases item with
    | error e =>
      simp only [writeDefinitions, reduceCtorEq, false_iff, not_exists, not_and]
      rintro (_ | ⟨d, definitions⟩) same
      · simp at same
      · simp at same
    | ok d =>
      simp only [writeDefinitions, bind_eq_ok_iff, writeDefinition_eq_ok_iff]
      constructor
      · rintro ⟨_, ⟨next, fits, rfl⟩, written⟩
        obtain ⟨definitions, rfl, bound, others, rfl, rfl⟩ := (ih next).1 written
        refine ⟨d :: definitions, rfl, ?_, List.forall_mem_cons.2 ⟨fits, others⟩, ?_, by simp⟩
        · rw [List.length_cons]
          omega
        · rw [List.length_cons]
          omega
      · rintro ⟨definitions, same, bound, fits, rfl, rfl⟩
        cases definitions with
        | nil => simp at same
        | cons d' definitions =>
          obtain ⟨rfl, rfl⟩ : d = d' ∧ rest = definitions.map .ok := by simpa using same
          obtain ⟨first, others⟩ := List.forall_mem_cons.1 fits
          rw [List.length_cons] at bound
          have next : count + 1 ≤ Header.maxGlyphs := by omega
          have total : count + (d :: definitions).length = count + 1 + definitions.length := by
            rw [List.length_cons]
            omega
          exact ⟨_, ⟨next, first, rfl⟩,
            (ih next).2 ⟨definitions, rfl, by omega, others, total, by simp⟩⟩

/-- A font is assembled from a stream without an error whose definitions fit and can be counted,
if its name is storable. Its file is the layout of the font. -/
theorem assemble_eq_ok_iff {items : List (Except ε GlyphDefinition)} {image : List UInt8} :
    assemble settings items = .ok image ↔
      ∃ definitions : List GlyphDefinition, items = definitions.map .ok ∧
        definitions.length ≤ Header.maxGlyphs ∧ (∀ d ∈ definitions, settings.Fits d) ∧
          Storable settings.name ∧ image = Image.fontBytes (settings.font definitions) := by
  simp only [assemble, bind_eq_ok_iff, pure_eq_ok_iff, Prod.exists, ofWrite_eq_ok_iff,
    Image.Writer.writeHeader_eq_ok_iff, writeDefinitions_eq_ok_iff (Nat.zero_le _), Nat.zero_add]
  constructor
  · rintro ⟨_, _, ⟨definitions, rfl, bound, fits, rfl, rfl⟩, _, ⟨name, rfl⟩, rfl⟩
    exact ⟨definitions, rfl, bound, fits, name, by
      simp [Image.fontBytes, FontSettings.font, FontSettings.header, Image.Writer.append,
        Image.Writer.empty]⟩
  · rintro ⟨definitions, rfl, bound, fits, name, rfl⟩
    exact ⟨_, _, ⟨definitions, rfl, bound, fits, rfl, rfl⟩, _, ⟨name, rfl⟩, by
      simp [Image.fontBytes, FontSettings.font, FontSettings.header, Image.Writer.append,
        Image.Writer.empty]⟩

/-- Definitions are assembled if they fit, can be counted, and the name is storable. -/
theorem assemble_definitions_eq_ok_iff {definitions : List GlyphDefinition} {image : List UInt8} :
    assemble (ε := ε) settings (definitions.map .ok) = .ok image ↔
      definitions.length ≤ Header.maxGlyphs ∧ (∀ d ∈ definitions, settings.Fits d) ∧
        Storable settings.name ∧ image = Image.fontBytes (settings.font definitions) := by
  rw [assemble_eq_ok_iff]
  constructor
  · rintro ⟨others, same, rest⟩
    obtain rfl : definitions = others := List.map_injective_iff.2 (fun _ _ => Except.ok.inj) same
    exact rest
  · exact fun rest => ⟨definitions, rfl, rest⟩

/-- The header of a font counts its glyphs, however many fit into a file. -/
theorem toNat_glyphCount {definitions : List GlyphDefinition}
    (bound : definitions.length ≤ Header.maxGlyphs) :
    (settings.font definitions).header.glyphCount.toNat = definitions.length := by
  have small : definitions.length < 256 := Nat.lt_succ_of_le bound
  change (UInt8.ofNat definitions.length).toNat = definitions.length
  rw [UInt8.toNat_ofNat', Nat.mod_eq_of_lt small]

/-- The font with given definitions has the shape that the settings tell if they fit. -/
theorem FontSettings.font_wellShaped {definitions : List GlyphDefinition}
    (name : Storable settings.name) (bound : definitions.length ≤ Header.maxGlyphs)
    (fits : ∀ d ∈ definitions, settings.Fits d) : (settings.font definitions).WellShaped where
  charset := ⟨settings.charset, by cases settings.charset; decide, rfl⟩
  name := name
  count := by
    rw [toNat_glyphCount bound, font, List.length_map]
  height := by
    rintro g hg
    obtain ⟨d, hd, rfl⟩ := List.mem_map.1 hg
    exact (fits d hd).1
  width := by
    rintro g hg
    obtain ⟨d, hd, rfl⟩ := List.mem_map.1 hg
    exact (fits d hd).2

theorem FontSettings.indices_font (settings : FontSettings) (definitions : List GlyphDefinition) :
    (settings.font definitions).glyphs.map (·.index) = definitions.map (·.index) := by
  rw [font, List.map_map]
  rfl

/-- The font with given definitions is well formed if they fit and define distinct indices. -/
theorem FontSettings.font_wellFormed {definitions : List GlyphDefinition}
    (name : Storable settings.name) (bound : definitions.length ≤ Header.maxGlyphs)
    (fits : ∀ d ∈ definitions, settings.Fits d)
    (distinct : (definitions.map (·.index)).Nodup) : (settings.font definitions).WellFormed := by
  rw [← settings.indices_font definitions] at distinct
  exact Font.wellFormed_iff.2 ⟨font_wellShaped name bound fits, distinct⟩

end BitmapFont
