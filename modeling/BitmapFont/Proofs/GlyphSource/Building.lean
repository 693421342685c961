import BitmapFont.Proofs.Assembly
import BitmapFont.Proofs.GlyphSource.DefinitionLines

/-!
# Fonts built from glyph sources

A font is built if every definition line of its source gives a glyph, and it then has these glyphs
in the order of the lines.
-/

namespace BitmapFont.GlyphSource

variable {settings : FontSettings}

/-- The rows of a definition are those of the pieces of its text, as many as the height tells. -/
theorem parseRows_eq_ok_iff {n : Nat} {char : Char} {text : List Char} {rows : List UInt64} :
    parseRows settings n char text = .ok rows ↔
      List.Forall₂ (fun written row => parseRow settings.width n written = .ok row)
        (Text.pieces ',' text) rows ∧ rows.length = settings.height.toNat := by
  simp only [parseRows, bind_eq_ok_iff, mapM_eq_ok_iff]
  constructor
  · rintro ⟨values, hvalues, same⟩
    split at same
    case isTrue height =>
      obtain rfl := pure_eq_ok_iff.1 same
      exact ⟨hvalues, height⟩
    case isFalse => exact nomatch same
  · rintro ⟨hrows, height⟩
    exact ⟨rows, hrows, by rw [if_pos height, pure_eq_ok_iff]⟩

/-- A definition line gives the glyph of its character whose rows are those of its text. -/
theorem outcome_eq_ok_iff {line : Nat × List Char} {d : GlyphDefinition} :
    outcome settings line = .ok d ↔
      d.char = lineChar line.2 ∧ d.index = lineIndex line.2 ∧
        List.Forall₂ (fun written row => parseRow settings.width line.1 written = .ok row)
          (Text.pieces ',' (body line.2)) d.rows ∧ d.rows.length = settings.height.toNat := by
  simp only [outcome, bind_eq_ok_iff, pure_eq_ok_iff, parseRows_eq_ok_iff]
  constructor
  · rintro ⟨rows, ⟨hrows, height⟩, rfl⟩
    exact ⟨rfl, rfl, hrows, height⟩
  · obtain ⟨char, index, rows⟩ := d
    rintro ⟨rfl, rfl, hrows, height⟩
    exact ⟨rows, ⟨hrows, height⟩, rfl⟩

theorem toNat_le_of_parseRow {width : RowWidth} {n : Nat} {written : List Char} {row : UInt64}
    (h : parseRow width n written = .ok row) : row.toNat ≤ width.maxValue := by
  obtain ⟨isRow, rfl⟩ := parseRow_eq_ok_iff.1 h
  rw [isRow.toNat_rowValue]
  exact isRow.rowValue_le

/-- What a definition line gives has the shape that the settings ask for. -/
theorem fits_of_outcome {line : Nat × List Char} {d : GlyphDefinition}
    (h : outcome settings line = .ok d) : settings.Fits d := by
  obtain ⟨_, _, rows, height⟩ := outcome_eq_ok_iff.1 h
  refine ⟨height, fun row hrow => ?_⟩
  obtain ⟨written, _, value⟩ := exists_of_mem_of_forall₂ rows hrow
  exact toNat_le_of_parseRow value

theorem fits_of_outcomes {lines : List (Nat × List Char)} {definitions : List GlyphDefinition}
    (outcomes : List.Forall₂ (fun line d => outcome settings line = .ok d) lines definitions) :
    ∀ d ∈ definitions, settings.Fits d := by
  intro d hd
  obtain ⟨line, _, given⟩ := exists_of_mem_of_forall₂ outcomes hd
  exact fits_of_outcome given

/-- A font is built if each definition line gives a glyph, the header can count them, and its name
is storable. -/
theorem buildFont_eq_ok_iff {text : String} {session : Session} {image : List UInt8} :
    (buildFont settings text session).1 = .ok image ↔
      ∃ definitions : List GlyphDefinition,
        List.Forall₂ (fun line d => outcome settings line = .ok d)
          (definitionLines session.used.order (Text.numbered (Text.lines text.toList)))
          definitions ∧
        definitions.length ≤ Header.maxGlyphs ∧ Storable settings.name ∧
          image = Image.fontBytes (settings.font definitions) := by
  have items : (buildFont settings text session).1 = assemble settings
      (upToError ((definitionLines session.used.order
        (Text.numbered (Text.lines text.toList))).map (outcome settings))) := by
    rw [← items_readLines]
    rfl
  rw [items, assemble_eq_ok_iff]
  simp only [upToError_eq_map_ok_iff, map_eq_map_ok_iff]
  constructor
  · rintro ⟨definitions, outcomes, bound, _, name, rfl⟩
    exact ⟨definitions, outcomes, bound, name, rfl⟩
  · rintro ⟨definitions, outcomes, bound, name, rfl⟩
    exact ⟨definitions, outcomes, bound, fits_of_outcomes outcomes, name, rfl⟩

theorem indices_of_outcomes {lines : List (Nat × List Char)} {definitions : List GlyphDefinition}
    (outcomes : List.Forall₂ (fun line d => outcome settings line = .ok d) lines definitions) :
    definitions.map (·.index) = lines.map (lineIndex ·.2) := by
  rw [← List.forall₂_eq_eq_eq, List.forall₂_map_left_iff, List.forall₂_map_right_iff]
  exact outcomes.flip.imp fun d line given => (outcome_eq_ok_iff.1 given).2.1

/-- The indices of the definitions of a source are distinct. -/
theorem nodup_of_outcomes {used : List UInt8} {lines : List (Nat × List Char)}
    {definitions : List GlyphDefinition}
    (outcomes : List.Forall₂ (fun line d => outcome settings line = .ok d)
      (definitionLines used lines) definitions) :
    (definitions.map (·.index)).Nodup := by
  rw [indices_of_outcomes outcomes]
  exact nodup_definitionLines used lines

end BitmapFont.GlyphSource
