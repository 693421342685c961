import BitmapFont.Proofs.GlyphSource.Building
import BitmapFont.Proofs.Image.Reading

/-!
# Pixels

The pixels of a built font are the digits of its glyph source. Where a digit stands in the source is
told here in terms of the text alone, without reference to how it is read.

## Main definitions

- `GlyphSource.rowsText`, `GlyphSource.bareRow` — the text of a line's rows, and of one row
- `GlyphSource.digit?` — the digit that a line writes for a pixel
- `GlyphSource.Draws` — a glyph of a font is the one that a line writes
-/

namespace BitmapFont

/-- In a font whose indices are distinct each glyph is found by its index. -/
theorem Font.glyph?_of_mem {f : Font} (distinct : (f.glyphs.map (·.index)).Nodup) {g : Glyph}
    (hg : g ∈ f.glyphs) : f.glyph? g.index = some g := by
  rw [Font.glyph?]
  induction hglyphs : f.glyphs generalizing f with
  | nil => simp [hglyphs] at hg
  | cons first rest ih =>
    rw [hglyphs, List.map_cons, List.nodup_cons] at distinct
    rw [hglyphs] at hg
    obtain rfl | later := List.mem_cons.1 hg
    · simp
    · have other : first.index ≠ g.index := by
        intro same
        exact distinct.1 (List.mem_map.2 ⟨g, later, same.symm⟩)
      rw [List.find?_cons_of_neg (by simpa using other)]
      exact @ih ⟨f.header, rest⟩ distinct.2 later rfl

namespace GlyphSource

/-- The text in which a line gives its rows: what follows the first equals sign, or the second
character if the line is about the equals sign. -/
def rowsText (line : List Char) : List Char :=
  if line.head? = some '=' then line.drop 2 else (line.dropWhile (· ≠ '=')).drop 1

/-- A written row without the blanks around it and the mark before its digits. -/
def bareRow (written : List Char) : List Char :=
  if ['0', 'b'] <+: Text.trim written then (Text.trim written).drop 2 else Text.trim written

/-- The digit that a line writes for the pixel in a column and a row. -/
def digit? (line : List Char) (x y : Nat) : Option Char :=
  ((Text.pieces ',' (rowsText line))[y]?).bind fun written => (bareRow written)[x]?

/-- A glyph is what a line draws in a font with given settings: the font has it for the character
that the line is about, and exactly those of its pixels are set for which the line writes a one. -/
def Draws (settings : FontSettings) (font : Font) (line : Nat × List Char) (g : Glyph) : Prop :=
  font.glyphForChar? (lineChar line.2) = some g ∧
    ∀ x y : UInt8, g.pixel settings.width x y = true ↔
      x.toNat < settings.width.bits ∧ y.toNat < settings.height.toNat ∧
        digit? line.2 x.toNat y.toNat = some '1'

theorem bareRow_eq_rowDigits (written : List Char) :
    bareRow written = rowDigits (Text.trim written) := by
  unfold bareRow rowDigits
  split
  case isTrue mark =>
    obtain ⟨rest, same⟩ := mark
    rw [← same]
    rfl
  case isFalse noMark =>
    split
    case h_1 rest same => exact absurd ⟨rest, same.symm⟩ noMark
    case h_2 => rfl

/-- What follows the first separator of a text. -/
theorem snd_cut?_getD (s : List Char) :
    ((Text.cut? '=' s).map (·.2)).getD [] = (s.dropWhile (· ≠ '=')).drop 1 := by
  have same : (fun c : Char => c != '=') = fun c => decide (c ≠ '=') := by
    funext c
    by_cases h : c = '=' <;> simp [h]
  unfold Text.cut?
  rw [← same]
  split
  case h_1 none => simp [none]
  case h_2 c rest some => simp [some]

theorem body_of_head?_ne {line : List Char} (head : line.head? ≠ some '=') :
    body line = (line.dropWhile (· ≠ '=')).drop 1 := by
  unfold body
  unfold body?
  split
  case h_1 => exact absurd rfl head
  case h_2 => exact absurd rfl head
  case h_3 => exact snd_cut?_getD line

/-- A line gives its rows in the text that follows, unless it gives none. -/
theorem body_eq_rowsText_or_nil (line : List Char) :
    body line = rowsText line ∨ body line = [] := by
  by_cases head : line.head? = some '='
  · obtain ⟨rest, rfl⟩ := List.head?_eq_some_iff.1 head
    cases rest with
    | nil => exact Or.inr rfl
    | cons second rest =>
      by_cases one : second.utf8Size = 1
      · exact Or.inl (by simp [body, body?, one, rowsText])
      · exact Or.inr (by simp [body, body?, one])
  · exact Or.inl (by rw [body_of_head?_ne head, rowsText, if_neg head])

/-- A digit of a written row is a pixel of its value. -/
theorem testBit_of_parseRow {width : RowWidth} {n : Nat} {written : List Char} {row : UInt64}
    (h : parseRow width n written = .ok row) {x : Nat} (hx : x < width.bits) :
    row.toNat.testBit (width.bits - 1 - x) = ((bareRow written)[x]? == some '1') := by
  obtain ⟨isRow, rfl⟩ := parseRow_eq_ok_iff.1 h
  rw [isRow.toNat_rowValue, bareRow_eq_rowDigits]
  rw [← isRow.1] at hx ⊢
  exact testBit_rowValue hx

/-- The text of a definition is not empty, because no row is. -/
theorem body_eq_rowsText {settings : FontSettings} {line : Nat × List Char} {d : GlyphDefinition}
    (h : outcome settings line = .ok d) : body line.2 = rowsText line.2 := by
  obtain same | empty := body_eq_rowsText_or_nil line.2
  · exact same
  · obtain ⟨_, _, rows, _⟩ := outcome_eq_ok_iff.1 h
    rw [empty, Text.pieces_nil] at rows
    obtain ⟨row, _, value, -, -⟩ := List.forall₂_cons_left_iff.1 rows
    have length := (parseRow_eq_ok_iff.1 value).1.1
    exact absurd length.symm settings.width.bits_ne_zero

/-- The pixels of a glyph are the digits of its line. -/
theorem pixel_iff_of_outcome {settings : FontSettings} {line : Nat × List Char}
    {d : GlyphDefinition} (h : outcome settings line = .ok d) (x y : UInt8) :
    d.glyph.pixel settings.width x y = true ↔
      x.toNat < settings.width.bits ∧ y.toNat < settings.height.toNat ∧
        digit? line.2 x.toNat y.toNat = some '1' := by
  obtain ⟨_, _, rows, height⟩ := outcome_eq_ok_iff.1 h
  rw [body_eq_rowsText h] at rows
  by_cases inside : y.toNat < settings.height.toNat
  · -- The row is the value of the piece at its place.
    rw [← height] at inside
    have row := List.getElem?_eq_getElem inside
    obtain ⟨written, place, value⟩ := getElem?_of_forall₂ rows row
    rw [Glyph.pixel, GlyphDefinition.glyph, row, digit?, place, Option.bind_some, ← height]
    by_cases column : x.toNat < settings.width.bits
    · simp [column, inside, testBit_of_parseRow value column]
    · simp [column]
  · have outside : d.rows[y.toNat]? = none := by
      rw [List.getElem?_eq_none_iff, height]
      exact Nat.le_of_not_lt inside
    simp [Glyph.pixel, GlyphDefinition.glyph, outside, inside]

/-- Every built font is read back. Its header is that of its settings and counts its glyphs, and its
glyphs are what the definition lines of the source draw, one for each line and in their order. -/
theorem pixels_of_buildFont {settings : FontSettings} {text : String} {session : Session}
    {image : List UInt8} (built : (buildFont settings text session).1 = .ok image) :
    ∃ font, Image.read image = .ok font ∧
      font.header = settings.header (UInt8.ofNat font.glyphs.length) ∧
      font.header.glyphCount.toNat = font.glyphs.length ∧
      List.Forall₂ (Draws settings font)
        (definitionLines session.used.order (Text.numbered (Text.lines text.toList)))
        font.glyphs := by
  obtain ⟨definitions, outcomes, bound, name, rfl⟩ := buildFont_eq_ok_iff.1 built
  have distinct := nodup_of_outcomes outcomes
  have formed := FontSettings.font_wellFormed name bound (fits_of_outcomes outcomes) distinct
  refine ⟨settings.font definitions, Image.read_eq_ok_iff.2 ⟨formed, rfl⟩, ?_, formed.count, ?_⟩
  · rw [FontSettings.font, List.length_map]
  · rw [FontSettings.font, List.forall₂_map_right_iff]
    refine (forall₂_mem outcomes).imp ?_
    rintro line d ⟨hline, hd, given⟩
    constructor
    · rw [Font.glyphForChar?, Charset.eq_ascii (Font.charset _), encode_lineChar hline,
        Option.bind_some, ← (outcome_eq_ok_iff.1 given).2.1]
      exact Font.glyph?_of_mem formed.distinct (List.mem_map.2 ⟨d, hd, rfl⟩)
    · exact pixel_iff_of_outcome given

/-- A source of four lines. The second is a comment and the third defines its character again. -/
theorem pixels_of_buildFont_four_lines :
    ∃ font, Image.read [0xBF, 0xFF, 1, 0, 8, 2, 2, 255, 255, 255, 0x46, 0,
        0x41, 0x01, 0x80, 0x3D, 0xFF, 0x00] = .ok font ∧
      List.Forall₂ (Draws ⟨.ascii, .w8, 2, .white, "F"⟩ font)
        [(1, "A=00000001,0b10000000".toList), (4, "==11111111, 00000000".toList)]
        font.glyphs := by
  have built : (buildFont ⟨.ascii, .w8, 2, .white, "F"⟩
      "A=00000001,0b10000000\n//x\nA=0\n==11111111, 00000000" .empty).1 =
        .ok [0xBF, 0xFF, 1, 0, 8, 2, 2, 255, 255, 255, 0x46, 0,
          0x41, 0x01, 0x80, 0x3D, 0xFF, 0x00] := by
    decide
  obtain ⟨font, accepted, -, -, drawn⟩ := pixels_of_buildFont built
  exact ⟨font, accepted, drawn⟩

end GlyphSource

end BitmapFont
