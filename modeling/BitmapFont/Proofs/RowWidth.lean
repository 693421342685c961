import BitmapFont.RowWidth
import Mathlib.Data.Nat.Bitwise

/-!
# Bounds on rows

The greatest row of a width is told in three ways: by the number of its pixels, by the number of its
bytes, and by the 64 bits that hold every row.
-/

namespace BitmapFont.RowWidth

theorem bits_ne_zero (width : RowWidth) : width.bits ≠ 0 := by
  cases width <;> decide

/-- A row of a width is below the power of two of its pixels. -/
theorem lt_two_pow_bits_iff {width : RowWidth} {n : Nat} :
    n < 2 ^ width.bits ↔ n ≤ width.maxValue := by
  cases width <;> simp [bits, maxValue] <;> omega

theorem lt_pow_bytes_iff {width : RowWidth} {n : Nat} :
    n < Nat.pow 256 width.bytes ↔ n ≤ width.maxValue := by
  cases width <;> simp [bytes, bits, maxValue] <;> omega

theorem maxValue_lt_size (width : RowWidth) : width.maxValue < UInt64.size := by
  cases width <;> decide

/-- Four numbers of pixels are those of a width. -/
theorem exists_bits_iff {n : Nat} : (∃ w : RowWidth, w.bits = n) ↔ n ∈ [8, 16, 32, 64] := by
  have widths : all.map bits = [8, 16, 32, 64] := rfl
  rw [← widths, List.mem_map]
  exact exists_congr fun w => (and_iff_right w.mem_all).symm

theorem ofBits?_eq_none_iff {n : Nat} : ofBits? n = none ↔ n ∉ [8, 16, 32, 64] := by
  simp only [← exists_bits_iff, not_exists, Option.eq_none_iff_forall_ne_some, ne_eq,
    ofBits?_eq_some_iff]

end BitmapFont.RowWidth
