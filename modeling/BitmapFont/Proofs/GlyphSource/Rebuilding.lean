import BitmapFont.Proofs.GlyphSource.Sources
import BitmapFont.Proofs.Image.Reading

/-!
# Rebuilding fonts

A font can be written down as a glyph source, one line for each glyph. However that is done, the
font that is built from the source has the same file.

## Main definitions

- `Header.settings` — the settings that a header records
- `GlyphSource.Expressible` — the glyphs that can be written down
-/

namespace BitmapFont

/-- The settings that a header records. -/
def Header.settings (h : Header) : FontSettings := ⟨.ascii, h.width, h.height, h.color, h.name⟩

/-- The definition that a glyph gives to its character. -/
def Glyph.definition (g : Glyph) : GlyphDefinition :=
  ⟨Char.ofNat g.index.toNat, g.index, g.rows⟩

/-- A well-formed font is that of the settings in its header and the definitions of its glyphs. -/
theorem Font.WellFormed.font_settings {f : Font} (formed : f.WellFormed) :
    f.header.settings.font (f.glyphs.map (·.definition)) = f := by
  obtain ⟨⟨tag, width, height, count, color, name⟩, glyphs⟩ := f
  obtain ⟨charset, _, rfl⟩ := formed.charset
  have counted : UInt8.ofNat glyphs.length = count := by
    have same : count.toNat = glyphs.length := formed.count
    rw [← same, UInt8.ofNat_toNat]
  have kept : glyphs.map (fun g => g.definition.glyph) = glyphs := List.map_id glyphs
  rw [charset.eq_ascii]
  simp only [FontSettings.font, FontSettings.header, Header.settings, List.length_map, counted,
    List.map_map, Function.comp_def, kept]

namespace GlyphSource

/-- Whether a glyph fits the settings of a font and can be written on a line of its own. -/
structure Expressible (settings : FontSettings) (g : Glyph) : Prop where
  writable : Writable g
  height : g.rows.length = settings.height.toNat
  width : ∀ row ∈ g.rows, row.toNat ≤ settings.width.maxValue

/-- The line of a glyph is about the glyph's character, and its text is that of the rows. -/
theorem WritesGlyph.parts {width : RowWidth} {g : Glyph} {line : List Char}
    (h : WritesGlyph width g line) (writable : Writable g) :
    lineChar line = Char.ofNat g.index.toNat ∧ lineIndex line = g.index ∧
      ∃ rows, List.Forall₂ (WritesRow width) g.rows rows ∧
        body line = [','].intercalate rows := by
  obtain ⟨rows, hrows, rfl⟩ := h
  have code := Text.toNat_ofNat_of_lt_128 writable.1
  refine ⟨rfl, ?_, rows, hrows, ?_⟩
  · simp only [lineIndex, lineChar, List.headD_cons, code, UInt8.ofNat_toNat]
  · by_cases equals : Char.ofNat g.index.toNat = '='
    · -- A line about the equals sign gives its rows after its second character.
      rw [equals]
      rfl
    · have cut : Text.cut? '=' (Char.ofNat g.index.toNat :: '=' :: [','].intercalate rows)
          = some ([Char.ofNat g.index.toNat], [','].intercalate rows) :=
        Text.cut?_eq_some_iff.2 ⟨by simpa using Ne.symm equals, rfl⟩
      have plain : body? (Char.ofNat g.index.toNat :: '=' :: [','].intercalate rows)
          = some ([','].intercalate rows) := by
        unfold body?
        split
        case h_1 same => exact absurd (List.cons.inj same).1 equals
        case h_2 same => exact absurd (List.cons.inj same).1 equals
        case h_3 => rw [cut, Option.map_some]
      rw [body, plain, Option.getD_some]

/-- The line of a glyph defines it, unless its index is in use. -/
theorem WritesGlyph.defines {width : RowWidth} {g : Glyph} {line : List Char}
    (h : WritesGlyph width g line) (writable : Writable g) {used : List UInt8}
    (fresh : g.index ∉ used) : Defines used line := by
  obtain ⟨char, index, -⟩ := h.parts writable
  obtain ⟨rows, hrows, rfl⟩ := h
  refine ⟨by simp, ?_, ?_, by rwa [index], by simp⟩
  · rintro ⟨rest, same⟩
    have second := (List.cons.inj (List.cons.inj same).2).1
    exact absurd second (by decide)
  · rw [char, Text.toNat_ofNat_of_lt_128 writable.1]
    exact writable.1

/-- The line of a glyph gives its definition. -/
theorem WritesGlyph.outcome {settings : FontSettings} {g : Glyph} {line : List Char}
    (h : WritesGlyph settings.width g line) (expressible : Expressible settings g) (n : Nat) :
    outcome settings (n, line) = .ok g.definition := by
  obtain ⟨char, index, rows, hrows, text⟩ := h.parts expressible.writable
  have separate : ∀ row ∈ rows, ',' ∉ row := by
    intro row hrow
    obtain ⟨value, _, written⟩ := exists_of_mem_of_forall₂ hrows hrow
    exact written.not_mem.1
  have nonempty : rows ≠ [] := by
    rintro rfl
    exact expressible.writable.2.2 (List.forall₂_nil_right_iff.1 hrows)
  rw [outcome_eq_ok_iff, text, Text.pieces_intercalate separate nonempty]
  refine ⟨char.symm, index.symm, ?_, expressible.height⟩
  refine ((forall₂_mem hrows).imp fun value row ⟨hvalue, _, written⟩ => ?_).flip
  exact written.parseRow (expressible.width value hvalue) n

theorem not_defines_of_ignored {used : List UInt8} {line : List Char}
    (h : line = [] ∨ ['/', '/'] <+: line) : ¬ Defines used line :=
  fun defines => h.elim defines.1 defines.2.1

theorem classify_of_ignored {charset : Charset} {used : IndexSet} {n : Nat} {line : List Char}
    (h : line = [] ∨ ['/', '/'] <+: line) : classify charset used n line = .ignored := by
  cases line with
  | nil => rfl
  | cons c rest =>
    have comment := List.isPrefixOf_iff_prefix.2 (h.resolve_left (by simp))
    simp only [classify, comment, if_true]

/-- The lines that write glyphs give their definitions, and nothing is wrong with them. -/
theorem WritesLines.read {settings : FontSettings} {glyphs : List Glyph}
    {texts : List (List Char)} (h : WritesLines settings.width glyphs texts)
    (expressible : ∀ g ∈ glyphs, Expressible settings g) (used : IndexSet)
    (fresh : ∀ g ∈ glyphs, g.index ∉ used.order) (distinct : (glyphs.map (·.index)).Nodup)
    (lines : List (Nat × List Char)) (hlines : lines.map (·.2) = texts) :
    List.Forall₂ (fun line d => GlyphSource.outcome settings line = .ok d)
        (definitionLines used.order lines) (glyphs.map (·.definition)) ∧
      ∀ note ∈ (readLines settings used lines).notes, note.level.isProblem = false := by
  -- The indices in use and the glyphs to come stay apart, so no line is passed over.
  induction h generalizing used lines with
  | nil =>
    obtain rfl := List.map_eq_nil_iff.1 hlines
    exact ⟨.nil, fun note hnote => nomatch hnote⟩
  | @ignored glyphs line rest hline _ ih =>
    obtain ⟨⟨n, text⟩, lines, rfl, rfl, hrest⟩ := List.map_eq_cons_iff.1 hlines
    obtain ⟨outcomes, quiet⟩ := ih expressible used fresh distinct lines hrest
    constructor
    · rw [definitionLines, if_neg (not_defines_of_ignored hline)]
      exact outcomes
    · simp only [readLines, classify_of_ignored hline]
      exact quiet
  | @glyph g glyphs line rest hline _ ih =>
    obtain ⟨⟨n, text⟩, lines, rfl, rfl, hrest⟩ := List.map_eq_cons_iff.1 hlines
    obtain ⟨first, others⟩ := List.forall_mem_cons.1 expressible
    obtain ⟨new, fresh⟩ := List.forall_mem_cons.1 fresh
    obtain ⟨unlike, distinct⟩ := List.nodup_cons.1 distinct
    have defines := hline.defines first.writable new
    have given := hline.outcome first n
    have index := (hline.parts first.writable).2.1
    have order := order_insert_lineIndex defines
    rw [index] at order
    have later : ∀ other ∈ glyphs, other.index ∉ (used.insert g.index).order := by
      intro other hother old
      rw [order, List.mem_append, List.mem_singleton] at old
      obtain before | same := old
      · exact fresh other hother before
      · exact unlike (List.mem_map.2 ⟨other, hother, same⟩)
    obtain ⟨outcomes, quiet⟩ := ih others (used.insert g.index) later distinct lines hrest
    constructor
    · rw [definitionLines, if_pos defines, index, ← order]
      exact .cons given outcomes
    · rw [readLines_cons_of_defines defines, given, index]
      exact List.forall_mem_cons.2 ⟨rfl, quiet⟩

/-- A font that was read is built again from every source that writes its glyphs, byte for byte, and
nothing is wrong with the source. The glyphs must be those of ASCII characters other than the line
feed, and have rows if there are any. -/
theorem buildFont_of_writesSource {data : List UInt8} {f : Font} {text : String}
    (accepted : Image.read data = .ok f)
    (ascii : ∀ g ∈ f.glyphs, g.index.toNat < 128 ∧ g.index ≠ 10)
    (tall : 1 ≤ f.header.height.toNat ∨ f.glyphs = [])
    (source : WritesSource f.header.width f.glyphs text.toList) :
    (buildFont f.header.settings text .empty).1 = .ok data ∧
      (buildFont f.header.settings text .empty).2.diagnostics.problemCount = 0 := by
  obtain ⟨formed, rfl⟩ := Image.read_eq_ok_iff.1 accepted
  have expressible : ∀ g ∈ f.glyphs, Expressible f.header.settings g := by
    intro g hg
    refine ⟨⟨(ascii g hg).1, (ascii g hg).2, ?_⟩, formed.height g hg, formed.width g hg⟩
    intro empty
    have height := formed.height g hg
    obtain some | none := tall
    · rw [empty, List.length_nil] at height
      omega
    · rw [none] at hg
      exact nomatch hg
  have lines := source.lines fun g hg => (expressible g hg).writable
  obtain ⟨outcomes, quiet⟩ := lines.read expressible .empty (fun g _ old => nomatch old)
    formed.distinct _ (Text.map_snd_numbered _)
  constructor
  · refine buildFont_eq_ok_iff.2 ⟨_, outcomes, ?_, formed.name, ?_⟩
    · rw [List.length_map, ← formed.count]
      exact Nat.le_of_lt_succ f.header.glyphCount.toNat_lt
    · rw [formed.font_settings]
  · rw [Diagnostics.problemCount, List.countP_eq_zero]
    intro note hnote
    simpa using quiet note hnote

/-- The glyphs of the equals sign and of the carriage return, with a comment between their lines. -/
theorem buildFont_of_writesSource_two_glyphs :
    (buildFont ⟨.ascii, .w8, 1, ⟨1, 2, 3⟩, "S"⟩
        "== 0b10000001\n// =\r\n\r=00001111\t" .empty).1 =
      .ok [0xBF, 0xFF, 1, 0, 8, 1, 2, 1, 2, 3, 0x53, 0, 0x3D, 0x81, 0x0D, 0x0F] := by
  have accepted : Image.read [0xBF, 0xFF, 1, 0, 8, 1, 2, 1, 2, 3, 0x53, 0, 0x3D, 0x81, 0x0D, 0x0F] =
      .ok ⟨⟨0, .w8, 1, 2, ⟨1, 2, 3⟩, "S"⟩, [⟨0x3D, [0x81]⟩, ⟨0x0D, [0x0F]⟩]⟩ := by
    decide
  have first : WritesGlyph .w8 ⟨0x3D, [0x81]⟩ "== 0b10000001".toList := by
    refine ⟨[" 0b10000001".toList], .cons ⟨[' '], ['0', 'b'], [], ?_, ?_, Or.inr rfl, ?_⟩ .nil, ?_⟩
    all_goals decide
  have second : WritesGlyph .w8 ⟨0x0D, [0x0F]⟩ "\r=00001111\t".toList := by
    refine ⟨["00001111\t".toList], .cons ⟨[], [], ['\t'], ?_, ?_, Or.inl rfl, ?_⟩ .nil, ?_⟩
    all_goals decide
  have comment : '\n' ∉ [' ', '='] := by decide
  have source : WritesSource .w8 [⟨0x3D, [0x81]⟩, ⟨0x0D, [0x0F]⟩]
      "== 0b10000001\n// =\r\n\r=00001111\t".toList :=
    .glyph first .lineFeed (.comment comment .returnLineFeed (.lastGlyph second))
  exact (buildFont_of_writesSource accepted (by decide) (by decide) source).1

end GlyphSource

end BitmapFont
