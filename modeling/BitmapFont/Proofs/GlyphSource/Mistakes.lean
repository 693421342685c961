import BitmapFont.Proofs.GlyphSource.Pixels

/-!
# Mistakes in definitions

Which definition lines are malformed, and which mistake is reported for them, is told here in terms
of the text of a line. Reading then gives what the definition lines before the first malformed one
write, and ends with its mistake.

## Main definitions

- `GlyphSource.writtenRows` — the rows as a line writes them
- `GlyphSource.Malformed` — a definition line has a mistake
- `GlyphSource.Reports` — the mistake that is reported for a line
- `GlyphSource.Records` — the definition that a line writes
-/

namespace BitmapFont

/-- The text that follows a number of bytes, unless the text is shorter or a character extends
beyond them. -/
def Text.afterBytes? : Nat → List Char → Option (List Char)
  | 0, s => some s
  | _ + 1, [] => none
  | n + 1, c :: rest =>
    if c.utf8Size ≤ n + 1 then Text.afterBytes? (n + 1 - c.utf8Size) rest else none

namespace GlyphSource

/-- The text in which a line writes its rows: what follows the first equals sign, or the first two
bytes if the line starts with an equals sign. -/
def payload (line : List Char) : List Char :=
  if line.head? = some '=' then (Text.afterBytes? 2 line).getD []
  else (line.dropWhile (· ≠ '=')).drop 1

/-- The rows as a line writes them. -/
def writtenRows (line : List Char) : List (List Char) :=
  Text.pieces ',' (payload line)

/-- Whether a definition line has a mistake: a row that is none of the width, or another number of
rows than the height. -/
def Malformed (settings : FontSettings) (line : List Char) : Prop :=
  (∃ written ∈ writtenRows line, ¬ IsRow settings.width (bareRow written)) ∨
    (writtenRows line).length ≠ settings.height.toNat

/-- The mistake in a written row on the line with number `n`. Its length comes before its digits. -/
inductive RowMistake (width : RowWidth) (n : Nat) (written : List Char) : GlyphError → Prop
  | wrongWidth (length : (bareRow written).length ≠ width.bits) :
      RowMistake width n written (.wrongWidth n width.bits (bareRow written).length)
  | invalidDigit (length : (bareRow written).length = width.bits)
      (digit : ∃ c ∈ bareRow written, c ≠ '0' ∧ c ≠ '1') :
      RowMistake width n written (.invalidDigit n (String.ofList (Text.trim written)))

/-- The mistake that is reported for a line: that of the first row that has one, or else a wrong
number of rows. -/
inductive Reports (settings : FontSettings) (line : Nat × List Char) : GlyphError → Prop
  | row {before after : List (List Char)} {written : List Char} {e : GlyphError}
      (split : writtenRows line.2 = before ++ written :: after)
      (fine : ∀ other ∈ before, IsRow settings.width (bareRow other))
      (mistake : RowMistake settings.width line.1 written e) : Reports settings line e
  | count (fine : ∀ written ∈ writtenRows line.2, IsRow settings.width (bareRow written))
      (count : (writtenRows line.2).length ≠ settings.height.toNat) :
      Reports settings line (.wrongHeight (lineChar line.2) line.1 settings.height.toNat
        (writtenRows line.2).length)

/-- The definition that a line writes: it is about the line's character, and the digits of its rows
are those that the line has. -/
structure Records (settings : FontSettings) (line : Nat × List Char) (d : GlyphDefinition) :
    Prop where
  char : d.char = lineChar line.2
  index : d.index = lineIndex line.2
  rows : List.Forall₂
    (fun written row => row.toNat ≤ settings.width.maxValue ∧
      rowText settings.width row = bareRow written) (writtenRows line.2) d.rows

theorem body_eq_payload (line : List Char) : body line = payload line := by
  by_cases head : line.head? = some '='
  · obtain ⟨rest, rfl⟩ := List.head?_eq_some_iff.1 head
    cases rest with
    | nil => rfl
    | cons second rest =>
      -- The second character ends with the second byte if it takes one byte.
      have first : '='.utf8Size = 1 := by decide
      have size := second.utf8Size_pos
      by_cases one : second.utf8Size = 1
      · simp [body, body?, payload, Text.afterBytes?, first, one]
      · have wide : ¬ second.utf8Size ≤ 1 := by omega
        simp [body, body?, payload, Text.afterBytes?, first, one, wide]
  · rw [body_of_head?_ne head, payload, if_neg head]

variable {settings : FontSettings}

/-- A written row has a value if it is one of the width, without the blanks and the mark. -/
theorem exists_parseRow_iff {width : RowWidth} {n : Nat} {written : List Char} :
    (∃ row, parseRow width n written = .ok row) ↔ IsRow width (bareRow written) := by
  simp only [parseRow_eq_ok_iff, bareRow_eq_rowDigits, exists_and_left, exists_eq, and_true]

/-- A written row that has no value has the mistake that is reported. No row overflows. -/
theorem parseRow_eq_error_iff {width : RowWidth} {n : Nat} {written : List Char}
    {e : GlyphError} : parseRow width n written = .error e ↔ RowMistake width n written e := by
  unfold parseRow
  dsimp only
  rw [← bareRow_eq_rowDigits]
  -- The cases follow the order of the checks, and the last check never fails.
  by_cases length : (bareRow written).length = width.bits
  · by_cases binary : ∀ c ∈ bareRow written, c = '0' ∨ c = '1'
    · have isRow : IsRow width (bareRow written) := ⟨length, binary⟩
      have all : (bareRow written).all (fun c => c = '0' || c = '1') = true := by
        simpa using binary
      have small := Nat.not_le.2 isRow.rowValue_lt_size
      simp only [length, all, small, ne_eq, not_true_eq_false, Bool.not_true, Bool.false_eq_true,
        if_false, reduceCtorEq, false_iff]
      rintro (wrong | ⟨_, c, hc, notZero, notOne⟩)
      · exact wrong length
      · exact (binary c hc).elim notZero notOne
    · have some : (bareRow written).all (fun c => c = '0' || c = '1') = false := by
        simpa using binary
      simp only [length, some, ne_eq, not_true_eq_false, Bool.not_false, if_false, if_true,
        Except.error.injEq]
      constructor
      · rintro rfl
        exact .invalidDigit length (by simpa using binary)
      · rintro (wrong | _)
        · exact absurd length wrong
        · rfl
  · simp only [length, ne_eq, not_false_eq_true, if_true, Except.error.injEq]
    constructor
    · rintro rfl
      exact .wrongWidth length
    · rintro (_ | ⟨same, _⟩)
      · rfl
      · exact absurd same length

/-- The mistake of a definition is that of its first row that has one, or else a wrong number of
rows. -/
theorem parseRows_eq_error_iff {n : Nat} {char : Char} {text : List Char} {e : GlyphError} :
    parseRows settings n char text = .error e ↔
      (∃ before written after, Text.pieces ',' text = before ++ written :: after ∧
        (∀ other ∈ before, IsRow settings.width (bareRow other)) ∧
          RowMistake settings.width n written e) ∨
      ((∀ written ∈ Text.pieces ',' text, IsRow settings.width (bareRow written)) ∧
        (Text.pieces ',' text).length ≠ settings.height.toNat ∧
          e = .wrongHeight char n settings.height.toNat (Text.pieces ',' text).length) := by
  simp only [parseRows, bind_eq_error_iff, mapM_eq_error_iff, mapM_eq_ok_iff, exists_parseRow_iff,
    parseRow_eq_error_iff]
  refine or_congr_right ⟨?_, ?_⟩
  · rintro ⟨rows, hrows, failed⟩
    have fine : ∀ written ∈ Text.pieces ',' text, IsRow settings.width (bareRow written) := by
      intro written hwritten
      obtain ⟨row, _, value⟩ := exists_of_mem_of_forall₂ hrows.flip hwritten
      exact exists_parseRow_iff.1 ⟨row, value⟩
    split at failed
    case isTrue => exact absurd failed (pure_ne_error rows e)
    case isFalse count =>
      obtain rfl := Except.error.inj failed
      rw [← hrows.length_eq] at count ⊢
      exact ⟨fine, count, rfl⟩
  · rintro ⟨fine, count, rfl⟩
    obtain ⟨rows, hrows⟩ :=
      exists_forall₂ fun written hwritten => exists_parseRow_iff.2 (fine written hwritten)
    rw [hrows.length_eq] at count ⊢
    exact ⟨rows, hrows, by rw [if_neg count]; rfl⟩

theorem outcome_eq_error_iff {line : Nat × List Char} {e : GlyphError} :
    outcome settings line = .error e ↔ Reports settings line e := by
  have step : outcome settings line = .error e ↔
      parseRows settings line.1 (lineChar line.2) (payload line.2) = .error e := by
    rw [outcome, bind_eq_error_iff, body_eq_payload]
    refine or_iff_left ?_
    rintro ⟨rows, _, impossible⟩
    exact pure_ne_error _ e impossible
  rw [step, parseRows_eq_error_iff]
  constructor
  · rintro (⟨before, written, after, split, fine, mistake⟩ | ⟨fine, count, rfl⟩)
    · exact .row split fine mistake
    · exact .count fine count
  · rintro (⟨split, fine, mistake⟩ | ⟨fine, count⟩)
    · exact Or.inl ⟨_, _, _, split, fine, mistake⟩
    · exact Or.inr ⟨fine, count, rfl⟩

end GlyphSource

end BitmapFont
