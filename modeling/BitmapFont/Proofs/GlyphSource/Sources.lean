import BitmapFont.Proofs.GlyphSource.Building
import BitmapFont.Proofs.Text.Cutting
import BitmapFont.Proofs.Text.Trimming

/-!
# Sources of glyphs

The ways to write glyphs down as a glyph source, one line for each glyph. The ends of lines are the
difficulty: a carriage return before a line feed ends the line together with it, but it may just as
well be blank and belong to the last row.

## Main definitions

- `GlyphSource.WritesRow`, `GlyphSource.WritesGlyph` — the ways to write a row and a glyph
- `GlyphSource.WritesSource` — the sources of glyphs
- `GlyphSource.WritesLines` — the lines of such sources
-/

namespace BitmapFont.GlyphSource

/-- Whether a text may stand beside a row: it is blank and stays on its line. -/
def Padding (s : List Char) : Prop := ∀ c ∈ s, Text.isBlank c = true ∧ c ≠ '\n'

instance (s : List Char) : Decidable (Padding s) :=
  List.decidableBAll _ s

/-- The ways to write a row: its digits, with or without the mark of base two, between blanks. -/
def WritesRow (width : RowWidth) (row : UInt64) (written : List Char) : Prop :=
  ∃ left mark right, Padding left ∧ Padding right ∧ (mark = [] ∨ mark = ['0', 'b']) ∧
    written = left ++ (mark ++ rowText width row) ++ right

/-- The ways to write a glyph: its character, an equals sign, and its rows between commas. -/
def WritesGlyph (width : RowWidth) (g : Glyph) (line : List Char) : Prop :=
  ∃ rows, List.Forall₂ (WritesRow width) g.rows rows ∧
    line = Char.ofNat g.index.toNat :: '=' :: [','].intercalate rows

/-- The ways to end a line. -/
inductive LineEnd : List Char → Prop
  | lineFeed : LineEnd ['\n']
  | returnLineFeed : LineEnd ['\r', '\n']

/-- The ways to write glyphs on lines in their order, with empty lines and comments between them.
The last line need not be ended. -/
inductive WritesSource (width : RowWidth) : List Glyph → List Char → Prop
  | nil : WritesSource width [] []
  | empty {glyphs : List Glyph} {ending rest : List Char} (hend : LineEnd ending)
      (hrest : WritesSource width glyphs rest) : WritesSource width glyphs (ending ++ rest)
  | comment {glyphs : List Glyph} {text ending rest : List Char} (htext : '\n' ∉ text)
      (hend : LineEnd ending) (hrest : WritesSource width glyphs rest) :
      WritesSource width glyphs ('/' :: '/' :: text ++ ending ++ rest)
  | glyph {g : Glyph} {glyphs : List Glyph} {line ending rest : List Char}
      (hline : WritesGlyph width g line) (hend : LineEnd ending)
      (hrest : WritesSource width glyphs rest) :
      WritesSource width (g :: glyphs) (line ++ ending ++ rest)
  | lastComment {text : List Char} (htext : '\n' ∉ text) :
      WritesSource width [] ('/' :: '/' :: text)
  | lastGlyph {g : Glyph} {line : List Char} (hline : WritesGlyph width g line) :
      WritesSource width [g] line

/-- The lines of sources, without their ends. -/
inductive WritesLines (width : RowWidth) : List Glyph → List (List Char) → Prop
  | nil : WritesLines width [] []
  | ignored {glyphs : List Glyph} {line : List Char} {rest : List (List Char)}
      (hline : line = [] ∨ ['/', '/'] <+: line) (hrest : WritesLines width glyphs rest) :
      WritesLines width glyphs (line :: rest)
  | glyph {g : Glyph} {glyphs : List Glyph} {line : List Char} {rest : List (List Char)}
      (hline : WritesGlyph width g line) (hrest : WritesLines width glyphs rest) :
      WritesLines width (g :: glyphs) (line :: rest)

/-- The characters of a row that are not blank. -/
theorem mem_mark_rowText {width : RowWidth} {row : UInt64} {mark : List Char}
    (hmark : mark = [] ∨ mark = ['0', 'b']) {c : Char} (hc : c ∈ mark ++ rowText width row) :
    c = '0' ∨ c = '1' ∨ c = 'b' := by
  obtain inMark | inDigits := List.mem_append.1 hc
  · obtain rfl | rfl := hmark
    · simp at inMark
    · simp only [List.mem_cons, List.not_mem_nil, or_false] at inMark
      obtain rfl | rfl := inMark
      · exact Or.inl rfl
      · exact Or.inr (Or.inr rfl)
  · obtain rfl | rfl := (isRow_rowText width row).2 c inDigits
    · exact Or.inl rfl
    · exact Or.inr (Or.inl rfl)

/-- A written row has neither commas nor line feeds. -/
theorem WritesRow.not_mem {width : RowWidth} {row : UInt64} {written : List Char}
    (h : WritesRow width row written) : ',' ∉ written ∧ '\n' ∉ written := by
  obtain ⟨left, mark, right, hleft, hright, hmark, rfl⟩ := h
  have parts : ∀ c, c ∈ left ++ (mark ++ rowText width row) ++ right →
      c ∈ left ∨ c ∈ mark ++ rowText width row ∨ c ∈ right := by
    intro c hc
    rw [List.append_assoc, List.mem_append, List.mem_append] at hc
    exact hc
  constructor
  · intro comma
    obtain inLeft | inCore | inRight := parts _ comma
    · exact absurd (hleft _ inLeft).1 (by decide)
    · exact absurd (mem_mark_rowText hmark inCore) (by decide)
    · exact absurd (hright _ inRight).1 (by decide)
  · intro feed
    obtain inLeft | inCore | inRight := parts _ feed
    · exact (hleft _ inLeft).2 rfl
    · exact absurd (mem_mark_rowText hmark inCore) (by decide)
    · exact (hright _ inRight).2 rfl

theorem rowDigits_mark_append {width : RowWidth} {digits mark : List Char}
    (hmark : mark = [] ∨ mark = ['0', 'b']) (h : IsRow width digits) :
    rowDigits (mark ++ digits) = digits := by
  obtain rfl | rfl := hmark
  · rw [List.nil_append]
    unfold rowDigits
    split
    -- Digits never look like a mark, because the second of them is not `b`.
    case h_1 rest =>
      have second := h.2 'b' (by simp)
      exact absurd second (by decide)
    case h_2 => rfl
  · rfl

theorem WritesRow.parseRow {width : RowWidth} {row : UInt64} {written : List Char}
    (h : WritesRow width row written) (fit : row.toNat ≤ width.maxValue) (n : Nat) :
    parseRow width n written = .ok row := by
  obtain ⟨left, mark, right, hleft, hright, hmark, rfl⟩ := h
  have core : Text.trim (left ++ (mark ++ rowText width row) ++ right)
      = mark ++ rowText width row := by
    refine Text.trim_pad (fun c hc => (hleft c hc).1) (fun c hc => (hright c hc).1) ?_
    intro c hc
    obtain rfl | rfl | rfl := mem_mark_rowText hmark hc
    · decide
    · decide
    · decide
  have isRow := isRow_rowText width row
  rw [parseRow_eq_ok_iff, core, rowDigits_mark_append hmark isRow, rowValue_rowText fit]
  exact ⟨isRow, by simp⟩

theorem mark_append_rowText_ne_nil (width : RowWidth) (row : UInt64) (mark : List Char) :
    mark ++ rowText width row ≠ [] := by
  intro none
  have length := length_rowText width row
  rw [(List.append_eq_nil_iff.1 none).2] at length
  exact width.bits_ne_zero length.symm

theorem WritesRow.ne_nil {width : RowWidth} {row : UInt64} {written : List Char}
    (h : WritesRow width row written) : written ≠ [] := by
  obtain ⟨left, mark, right, _, _, _, rfl⟩ := h
  intro none
  have core := (List.append_eq_nil_iff.1 (List.append_eq_nil_iff.1 none).1).2
  exact mark_append_rowText_ne_nil width row mark core

/-- A written row stays one if a carriage return at its end is taken for a part of the line's
end. -/
theorem WritesRow.dropReturn {width : RowWidth} {row : UInt64} {written : List Char}
    (h : WritesRow width row written) : WritesRow width row (Text.dropReturn written) := by
  obtain ⟨left, mark, right, hleft, hright, hmark, rfl⟩ := h
  have digits := mark_append_rowText_ne_nil width row mark
  by_cases bare : right = []
  · -- The last character is a digit, so nothing is dropped.
    subst bare
    have last : (left ++ (mark ++ rowText width row) ++ []).getLast? ≠ some '\r' := by
      rw [List.append_nil, List.getLast?_append, List.getLast?_eq_some_getLast digits,
        Option.some_or]
      intro same
      have inCore := List.getLast_mem digits
      rw [Option.some.inj same] at inCore
      exact absurd (mem_mark_rowText hmark inCore) (by decide)
    rw [Text.dropReturn_of_getLast?_ne last]
    exact ⟨left, mark, [], hleft, hright, hmark, rfl⟩
  · rw [Text.dropReturn_append _ bare]
    refine ⟨left, mark, Text.dropReturn right, hleft, fun c hc => hright c ?_, hmark, rfl⟩
    unfold Text.dropReturn at hc
    split at hc
    · exact List.dropLast_subset right hc
    · exact hc

/-- A carriage return at the end of written rows belongs to the last of them. -/
theorem dropReturn_intercalate {width : RowWidth} {values : List UInt64}
    {written : List (List Char)} (h : List.Forall₂ (WritesRow width) values written)
    (nonempty : values ≠ []) :
    [','].intercalate written ≠ [] ∧
      ∃ rows, List.Forall₂ (WritesRow width) values rows ∧
        Text.dropReturn ([','].intercalate written) = [','].intercalate rows := by
  induction h with
  | nil => exact absurd rfl nonempty
  | @cons value row values written hrow others ih =>
    by_cases single : values = []
    · -- The return stands at the end of the last row.
      subst single
      obtain rfl := List.forall₂_nil_left_iff.1 others
      rw [List.intercalate_singleton]
      exact ⟨hrow.ne_nil, [Text.dropReturn row], .cons hrow.dropReturn .nil, by simp⟩
    · obtain ⟨tail, rows, hrows, same⟩ := ih single
      have many : ∀ {rows}, List.Forall₂ (WritesRow width) values rows → rows ≠ [] := by
        rintro _ hrows rfl
        exact single (List.forall₂_nil_right_iff.1 hrows)
      rw [List.intercalate_cons_of_ne_nil (many others), List.append_assoc]
      refine ⟨by simp, row :: rows, .cons hrow hrows, ?_⟩
      rw [Text.dropReturn_append _ (by simp), Text.dropReturn_append _ tail, same,
        List.intercalate_cons_of_ne_nil (many hrows), List.append_assoc]

/-- A written glyph stays one if a carriage return at its end is taken for a part of the line's
end. -/
theorem WritesGlyph.dropReturn {width : RowWidth} {g : Glyph} {line : List Char}
    (h : WritesGlyph width g line) (tall : g.rows ≠ []) :
    WritesGlyph width g (Text.dropReturn line) := by
  obtain ⟨written, hwritten, rfl⟩ := h
  obtain ⟨nonempty, rows, hrows, same⟩ := dropReturn_intercalate hwritten tall
  refine ⟨rows, hrows, ?_⟩
  rw [← same]
  exact Text.dropReturn_append [_, '='] nonempty

theorem mem_intercalate {separator c : Char} {parts : List (List Char)}
    (h : c ∈ [separator].intercalate parts) : c = separator ∨ ∃ part ∈ parts, c ∈ part := by
  induction parts with
  | nil => simp at h
  | cons part rest ih =>
    by_cases last : rest = []
    · subst last
      rw [List.intercalate_singleton] at h
      exact Or.inr ⟨part, by simp, h⟩
    · rw [List.intercalate_cons_of_ne_nil last, List.append_assoc, List.mem_append,
        List.mem_append, List.mem_singleton] at h
      obtain inPart | same | inRest := h
      · exact Or.inr ⟨part, by simp, inPart⟩
      · exact Or.inl same
      · refine (ih inRest).imp_right ?_
        rintro ⟨other, hother, hc⟩
        exact ⟨other, List.mem_cons_of_mem _ hother, hc⟩

/-- Whether a glyph can be written on a line of its own: its character is of ASCII and no line feed,
and it has a row. -/
def Writable (g : Glyph) : Prop := g.index.toNat < 128 ∧ g.index ≠ 10 ∧ g.rows ≠ []

theorem WritesGlyph.lineFeed_not_mem {width : RowWidth} {g : Glyph} {line : List Char}
    (h : WritesGlyph width g line) (writable : Writable g) : '\n' ∉ line := by
  obtain ⟨rows, hrows, rfl⟩ := h
  intro feed
  obtain same | equals | inRows : '\n' = Char.ofNat g.index.toNat ∨ '\n' = '='
      ∨ '\n' ∈ [','].intercalate rows := by simpa using feed
  · have value := congrArg Char.toNat same
    rw [Text.toNat_ofNat_of_lt_128 writable.1] at value
    exact writable.2.1 (UInt8.toNat_inj.1 value.symm)
  · exact absurd equals (by decide)
  · obtain comma | ⟨row, hrow, inRow⟩ := mem_intercalate inRows
    · exact absurd comma (by decide)
    · obtain ⟨value, _, written⟩ := exists_of_mem_of_forall₂ hrows hrow
      exact written.not_mem.2 inRow

/-- The line that a text before a line end becomes. -/
theorem lines_append_ending {line ending : List Char} (hend : LineEnd ending)
    (single : '\n' ∉ line) (rest : List Char) :
    ∃ kept, (kept = line ∨ kept = Text.dropReturn line) ∧
      Text.lines (line ++ ending ++ rest) = kept :: Text.lines rest := by
  cases hend with
  | lineFeed =>
    -- A return at the end of the text is dropped, as if it belonged to the line's end.
    refine ⟨Text.dropReturn line, Or.inr rfl, ?_⟩
    rw [List.append_assoc]
    exact Text.lines_append_cons single rest
  | returnLineFeed =>
    refine ⟨line, Or.inl rfl, ?_⟩
    have noFeed : '\n' ∉ line ++ ['\r'] := by simpa using single
    have cut := Text.lines_append_cons noFeed rest
    rw [Text.dropReturn_concat] at cut
    rw [← cut]
    simp

/-- The lines of a source write its glyphs. -/
theorem WritesSource.lines {width : RowWidth} {glyphs : List Glyph} {text : List Char}
    (h : WritesSource width glyphs text) (writable : ∀ g ∈ glyphs, Writable g) :
    WritesLines width glyphs (Text.lines text) := by
  have comment : ∀ text : List Char, ['/', '/'] <+: Text.dropReturn ('/' :: '/' :: text) := by
    intro text
    by_cases bare : text = []
    · subst bare
      exact List.prefix_refl _
    · have same := Text.dropReturn_append ['/', '/'] bare
      exact ⟨Text.dropReturn text, same.symm⟩
  induction h with
  | nil => exact .nil
  | @empty glyphs ending rest hend _ ih =>
    obtain ⟨kept, blank, same⟩ := lines_append_ending hend List.not_mem_nil rest
    rw [List.nil_append] at same
    rw [same]
    refine .ignored (Or.inl ?_) (ih writable)
    obtain rfl | rfl := blank
    · rfl
    · rfl
  | @comment glyphs text ending rest htext hend _ ih =>
    have single : '\n' ∉ '/' :: '/' :: text := by simpa using htext
    obtain ⟨kept, said, same⟩ := lines_append_ending hend single rest
    rw [same]
    refine .ignored (Or.inr ?_) (ih writable)
    obtain rfl | rfl := said
    · exact ⟨text, rfl⟩
    · exact comment text
  | @glyph g glyphs line ending rest hline hend _ ih =>
    obtain ⟨first, others⟩ := List.forall_mem_cons.1 writable
    obtain ⟨kept, said, same⟩ :=
      lines_append_ending hend (hline.lineFeed_not_mem first) rest
    rw [same]
    refine .glyph ?_ (ih others)
    -- Without the return that was dropped, the line is another way to write the same glyph.
    obtain rfl | rfl := said
    · exact hline
    · exact hline.dropReturn first.2.2
  | @lastComment text htext =>
    have single : '\n' ∉ '/' :: '/' :: text := by simpa using htext
    rw [Text.lines_eq_singleton single (by simp)]
    exact .ignored (Or.inr ⟨text, rfl⟩) .nil
  | @lastGlyph g line hline =>
    have single := hline.lineFeed_not_mem (writable g (by simp))
    have nonempty : line ≠ [] := by
      obtain ⟨rows, _, rfl⟩ := hline
      simp
    rw [Text.lines_eq_singleton single nonempty]
    exact .glyph hline .nil

end BitmapFont.GlyphSource
