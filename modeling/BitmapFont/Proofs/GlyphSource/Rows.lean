import BitmapFont.GlyphSource
import BitmapFont.Proofs.Outcome
import BitmapFont.Proofs.RowWidth
import Mathlib.Data.List.Induction

/-!
# Written rows

A row is written in base two, so each digit is one bit of its value, the leftmost the most
significant. A row of the right width never overflows.

## Main definitions

- `GlyphSource.IsRow` — the digits of a row of a width
- `GlyphSource.rowText` — the digits of a row
-/

namespace BitmapFont.GlyphSource

/-- Whether digits are those of a row of a width. -/
def IsRow (width : RowWidth) (digits : List Char) : Prop :=
  digits.length = width.bits ∧ ∀ c ∈ digits, c = '0' ∨ c = '1'

/-- The digits of a row of a width, the leftmost pixel first. -/
def rowText (width : RowWidth) (row : UInt64) : List Char :=
  (List.range width.bits).map fun x =>
    if row.toNat.testBit (width.bits - 1 - x) then '1' else '0'

theorem rowValue_concat (digits : List Char) (c : Char) :
    rowValue (digits ++ [c]) = 2 * rowValue digits + if c = '1' then 1 else 0 := by
  simp [rowValue]

/-- The value of digits is below the power of two that they can express. -/
theorem rowValue_lt (digits : List Char) : rowValue digits < 2 ^ digits.length := by
  induction digits using List.reverseRecOn with
  | nil => decide
  | append_singleton digits c ih =>
    rw [rowValue_concat, List.length_append, List.length_singleton, pow_succ]
    split <;> omega

/-- The digit at a place is the bit of the value that counts as many places from the right. -/
theorem testBit_rowValue {digits : List Char} {x : Nat} (hx : x < digits.length) :
    (rowValue digits).testBit (digits.length - 1 - x) = (digits[x]? == some '1') := by
  induction digits using List.reverseRecOn with
  | nil => simp at hx
  | append_singleton digits c ih =>
    rw [rowValue_concat]
    simp only [List.length_append, List.length_singleton, Nat.add_sub_cancel] at hx ⊢
    by_cases last : x = digits.length
    · -- The last digit is the lowest bit.
      subst last
      rw [Nat.sub_self, Nat.testBit_zero, List.getElem?_concat_length]
      by_cases one : c = '1' <;> simp [one, Nat.add_mod]
    · -- A digit before it has moved up by one bit.
      have before : x < digits.length := by omega
      have place : digits.length - x = digits.length - 1 - x + 1 := by omega
      have half : (2 * rowValue digits + if c = '1' then 1 else 0) / 2 = rowValue digits := by
        split <;> omega
      rw [place, Nat.testBit_add_one, half, ih before, List.getElem?_append_left before]

@[simp] theorem length_rowText (width : RowWidth) (row : UInt64) :
    (rowText width row).length = width.bits := by
  simp [rowText]

theorem isRow_rowText (width : RowWidth) (row : UInt64) : IsRow width (rowText width row) := by
  refine ⟨length_rowText width row, fun c hc => ?_⟩
  obtain ⟨x, _, rfl⟩ := List.mem_map.1 hc
  split
  · exact Or.inr rfl
  · exact Or.inl rfl

/-- A row has the value of its digits. -/
theorem rowValue_rowText {width : RowWidth} {row : UInt64} (fit : row.toNat ≤ width.maxValue) :
    rowValue (rowText width row) = row.toNat := by
  apply Nat.eq_of_testBit_eq
  intro i
  by_cases inside : i < width.bits
  · have place : width.bits - 1 - (width.bits - 1 - i) = i := by omega
    have column : width.bits - 1 - i < (rowText width row).length := by
      rw [length_rowText]
      omega
    have bit := testBit_rowValue column
    rw [length_rowText, place] at bit
    rw [bit, rowText, List.getElem?_map, List.getElem?_range (by omega), Option.map_some, place]
    cases row.toNat.testBit i <;> rfl
  · -- Beyond the width there is no bit on either side.
    have wide : 2 ^ width.bits ≤ 2 ^ i := Nat.pow_le_pow_right (by decide) (by omega)
    have digits := rowValue_lt (rowText width row)
    rw [length_rowText] at digits
    rw [Nat.testBit_lt_two_pow (by omega),
      Nat.testBit_lt_two_pow (lt_of_lt_of_le (RowWidth.lt_two_pow_bits_iff.2 fit) wide)]

theorem IsRow.rowValue_le {width : RowWidth} {digits : List Char} (h : IsRow width digits) :
    rowValue digits ≤ width.maxValue :=
  RowWidth.lt_two_pow_bits_iff.1 (h.1 ▸ rowValue_lt digits)

theorem IsRow.rowValue_lt_size {width : RowWidth} {digits : List Char} (h : IsRow width digits) :
    rowValue digits < UInt64.size :=
  Nat.lt_of_le_of_lt h.rowValue_le width.maxValue_lt_size

theorem IsRow.toNat_rowValue {width : RowWidth} {digits : List Char} (h : IsRow width digits) :
    (UInt64.ofNat (rowValue digits)).toNat = rowValue digits := by
  rw [UInt64.toNat_ofNat', Nat.mod_eq_of_lt h.rowValue_lt_size]

/-- The digits of a row are those from which it was read. -/
theorem IsRow.rowText_rowValue {width : RowWidth} {digits : List Char} (h : IsRow width digits) :
    rowText width (UInt64.ofNat (rowValue digits)) = digits := by
  apply List.ext_getElem
  · rw [length_rowText, h.1]
  · intro x _ hx
    have bit := testBit_rowValue hx
    rw [h.1, List.getElem?_eq_getElem hx] at bit
    have digit := h.2 digits[x] (List.getElem_mem hx)
    simp only [rowText, h.toNat_rowValue, List.getElem_map, List.getElem_range, bit]
    obtain zero | one := digit
    · simp [zero]
    · simp [one]

/-- A written row has a value if and only if it is a row without the blanks and the mark around
it. No row overflows. -/
theorem parseRow_eq_ok_iff {width : RowWidth} {n : Nat} {written : List Char} {row : UInt64} :
    parseRow width n written = .ok row ↔
      IsRow width (rowDigits (Text.trim written)) ∧
        row = UInt64.ofNat (rowValue (rowDigits (Text.trim written))) := by
  unfold parseRow
  by_cases length : (rowDigits (Text.trim written)).length = width.bits
  · by_cases binary : ∀ c ∈ rowDigits (Text.trim written), c = '0' ∨ c = '1'
    · have isRow : IsRow width (rowDigits (Text.trim written)) := ⟨length, binary⟩
      have small := isRow.rowValue_lt_size
      have all : (rowDigits (Text.trim written)).all (fun c => c = '0' || c = '1') = true := by
        simpa using binary
      simp [length, all, isRow, Nat.not_le.2 small, eq_comm]
    · have bad : ¬ IsRow width (rowDigits (Text.trim written)) := fun h => binary h.2
      have some : (rowDigits (Text.trim written)).all (fun c => c = '0' || c = '1') = false := by
        simpa using binary
      simp [length, some, bad]
  · have bad : ¬ IsRow width (rowDigits (Text.trim written)) := fun h => length h.1
    simp [length, bad]

end BitmapFont.GlyphSource
