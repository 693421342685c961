import BitmapFont.Proofs.Image.Layout
import BitmapFont.Proofs.Outcome

/-!
# What writers write

A header is written if its name is storable, a glyph if none of its rows is too wide. A font is
written by one call for its header and one for each glyph.

## Main definitions

- `Image.Writer.after` — the writer after a call that has gone well
- `Image.Writer.writeFont` — a font written by a new writer
- `Image.NameRefused` — why a header is not written
-/

namespace BitmapFont.Image

/-- Why the header of a font with a given name is not written. -/
inductive NameRefused (name : String) : WriteError → Prop
  | notAscii {c : Char} (among : c ∈ name.toList) (notAscii : 128 ≤ c.toNat) :
    NameRefused name (.nameNotAscii name)
  | hasNul (ascii : ∀ c ∈ name.toList, c.toNat < 128) (nul : '\x00' ∈ name.toList) :
    NameRefused name (.nameHasNul name)

namespace Writer

/-- The writer after a call that has gone well. -/
def after (outcome : Except WriteError Unit × Writer) : Except WriteError Writer :=
  match outcome with
  | (.ok (), w) => .ok w
  | (.error e, _) => .error e

/-- Writes glyphs one after another. The first that cannot be written is the error. -/
def writeGlyphs (width : RowWidth) : Writer → List Glyph → Except WriteError Writer
  | w, [] => .ok w
  | w, g :: rest => do writeGlyphs width (← after (w.writeGlyph width g.index g.rows)) rest

/-- What a new writer holds after it has written the header of a font and then each glyph. -/
def writeFont (f : Font) : Except WriteError (List UInt8) := do
  let w ← after (empty.writeHeader f.header)
  let w ← writeGlyphs f.header.width w f.glyphs
  return w.data

theorem after_eq_ok_iff {outcome : Except WriteError Unit × Writer} {w : Writer} :
    after outcome = .ok w ↔ outcome.1 = .ok () ∧ outcome.2 = w := by
  obtain ⟨result, written⟩ := outcome
  cases result with
  | error e => simp [after]
  | ok _ => simp [after]

theorem writeHeader_eq_ok_iff {w w' : Writer} {h : Header} :
    after (w.writeHeader h) = .ok w' ↔ Storable h.name ∧ w' = ⟨w.data ++ headerBytes h⟩ := by
  by_cases ascii : h.name.toList.all (·.toNat < 128)
  · by_cases nul : '\x00' ∈ h.name.toList
    · have bad : ¬ Storable h.name := fun good => (good _ nul).2 rfl
      simp [writeHeader, ascii, nul, after, bad]
    · have good : Storable h.name := by
        intro c hc
        refine ⟨by simpa using List.all_eq_true.1 ascii c hc, ?_⟩
        rintro rfl
        exact nul hc
      simp [writeHeader, ascii, nul, after, good, eq_comm]
  · have bad : ¬ Storable h.name := by
      intro good
      exact ascii (List.all_eq_true.2 fun c hc => by simpa using (good c hc).1)
    simp [writeHeader, ascii, after, bad]

/-- A glyph is written if none of its rows is too wide. -/
theorem writeGlyph_eq_ok_iff {w w' : Writer} {width : RowWidth} {index : UInt8}
    {rows : List UInt64} :
    after (w.writeGlyph width index rows) = .ok w' ↔
      (∀ row ∈ rows, row.toNat ≤ width.maxValue) ∧
        w' = ⟨w.data ++ glyphBytes width ⟨index, rows⟩⟩ := by
  by_cases fit : ∀ row ∈ rows, row.toNat ≤ width.maxValue
  · have holds : ∀ row ∈ rows, width.holds row = true :=
      fun row hrow => RowWidth.holds_iff.2 (fit row hrow)
    have wide : rows.find? (fun row => !width.holds row) = none := by
      rw [List.find?_eq_none]
      intro row hrow
      simp [holds row hrow]
    have whole : rows.takeWhile width.holds = rows := by
      rw [← List.append_nil rows, List.takeWhile_append_of_pos holds, List.takeWhile_nil]
    rw [after_eq_ok_iff, writeGlyph, wide, whole]
    exact ⟨fun h => ⟨fit, h.2.symm⟩, fun h => ⟨rfl, h.2.symm⟩⟩
  · -- The first row that is too wide is the error.
    have wide : ∃ row, rows.find? (fun row => !width.holds row) = some row := by
      rw [← Option.isSome_iff_exists, List.find?_isSome]
      simpa [RowWidth.holds] using fit
    obtain ⟨row, hrow⟩ := wide
    rw [after_eq_ok_iff, writeGlyph, hrow]
    exact ⟨fun h => (nomatch h.1), fun h => absurd h.1 fit⟩

theorem writeGlyphs_eq_ok_iff {width : RowWidth} {w w' : Writer} {glyphs : List Glyph} :
    writeGlyphs width w glyphs = .ok w' ↔
      (∀ g ∈ glyphs, ∀ row ∈ g.rows, row.toNat ≤ width.maxValue) ∧
        w' = ⟨w.data ++ glyphs.flatMap (glyphBytes width)⟩ := by
  induction glyphs generalizing w with
  | nil => simp [writeGlyphs, eq_comm]
  | cons g rest ih =>
    simp only [writeGlyphs, bind_eq_ok_iff, writeGlyph_eq_ok_iff, ih, List.forall_mem_cons,
      List.flatMap_cons]
    constructor
    · rintro ⟨_, ⟨first, rfl⟩, others, rfl⟩
      exact ⟨⟨first, others⟩, by simp⟩
    · rintro ⟨⟨first, others⟩, rfl⟩
      exact ⟨_, ⟨first, rfl⟩, others, by simp⟩

/-- A font is written if its name is storable and none of its rows is too wide. -/
theorem writeFont_eq_ok_iff {f : Font} {data : List UInt8} :
    writeFont f = .ok data ↔
      Storable f.header.name ∧
        (∀ g ∈ f.glyphs, ∀ row ∈ g.rows, row.toNat ≤ f.header.width.maxValue) ∧
          data = fontBytes f := by
  simp only [writeFont, bind_eq_ok_iff, pure_eq_ok_iff, writeHeader_eq_ok_iff,
    writeGlyphs_eq_ok_iff]
  constructor
  · rintro ⟨_, ⟨name, rfl⟩, _, ⟨width, rfl⟩, rfl⟩
    exact ⟨name, width, by simp [empty, fontBytes]⟩
  · rintro ⟨name, width, rfl⟩
    exact ⟨_, ⟨name, rfl⟩, _, ⟨width, rfl⟩, by simp [empty, fontBytes]⟩

theorem writeHeader_eq_error_iff {w : Writer} {h : Header} {e : WriteError} :
    (w.writeHeader h).1 = .error e ↔ NameRefused h.name e := by
  unfold writeHeader
  split
  case isTrue ascii =>
    have small : ∀ c ∈ h.name.toList, c.toNat < 128 := by simpa using ascii
    split
    case isTrue nul =>
      constructor
      · rintro ⟨⟩
        exact .hasNul small nul
      · rintro (⟨among, wide⟩ | _)
        · exact absurd (small _ among) (Nat.not_lt.2 wide)
        · rfl
    case isFalse noNul =>
      constructor
      · rintro ⟨⟩
      · rintro (⟨among, wide⟩ | ⟨_, nul⟩)
        · exact absurd (small _ among) (Nat.not_lt.2 wide)
        · exact absurd nul noNul
  case isFalse notAscii =>
    obtain ⟨c, among, wide⟩ : ∃ c ∈ h.name.toList, 128 ≤ c.toNat := by simpa using notAscii
    constructor
    · rintro ⟨⟩
      exact .notAscii among wide
    · rintro (_ | ⟨ascii, _⟩)
      · rfl
      · exact absurd (ascii c among) (Nat.not_lt.2 wide)

/-- A glyph is refused for the first of its rows that is too wide. -/
theorem writeGlyph_eq_error_iff {w : Writer} {width : RowWidth} {index : UInt8}
    {rows : List UInt64} {e : WriteError} :
    (w.writeGlyph width index rows).1 = .error e ↔
      ∃ before row after, rows = before ++ row :: after ∧
        (∀ b ∈ before, b.toNat ≤ width.maxValue) ∧ width.maxValue < row.toNat ∧
          e = .rowTooWide row width index := by
  have wide (row : UInt64) :
      rows.find? (fun row => !width.holds row) = some row ↔ ∃ before after,
        rows = before ++ row :: after ∧ (∀ b ∈ before, b.toNat ≤ width.maxValue) ∧
          width.maxValue < row.toNat := by
    rw [List.find?_eq_some_iff_append]
    simp only [RowWidth.holds, Bool.not_eq_true', decide_eq_false_iff_not, Nat.not_le,
      Bool.not_not, decide_eq_true_eq]
    constructor
    · rintro ⟨wide, before, after, split, fit⟩
      exact ⟨before, after, split, fit, wide⟩
    · rintro ⟨before, after, split, fit, wide⟩
      exact ⟨wide, before, after, split, fit⟩
  rw [writeGlyph]
  constructor
  · intro refused
    split at refused
    case h_1 row found =>
      obtain ⟨before, after, split, fit, tooWide⟩ := (wide row).1 found
      exact ⟨before, row, after, split, fit, tooWide, (Except.error.inj refused).symm⟩
    case h_2 => exact nomatch refused
  · rintro ⟨before, row, after, split, fit, tooWide, rfl⟩
    rw [(wide row).2 ⟨before, after, split, fit, tooWide⟩]

end Writer

end BitmapFont.Image
