import BitmapFont.Font
import BitmapFont.Proofs.RowWidth
import Mathlib.Algebra.BigOperators.Fin
import Mathlib.Algebra.BigOperators.Intervals
import Mathlib.Tactic.Ring

/-!
# Glyphs as rasters

The pixels of a row are its binary digits, the leftmost the most significant. So a row is the sum of
the powers of two that its pixels stand for, and a glyph whose rows fit its width is told by its
pixels.

## Main definitions

- `byteDifference?` — subtraction of bytes, which cannot go below zero
- `RowWidth.shift?` — by how many places a row is moved to look at one of its pixels
- `Glyph.pixelByShift?` — a pixel as it is worked out with machine words
-/

namespace BitmapFont

/-- A difference of two bytes. It is none if it would be below zero. -/
def byteDifference? (a b : UInt8) : Option UInt8 :=
  if b ≤ a then some (a - b) else none

/-- The number of places by which a row is moved to the right so that the pixel in column `x` becomes
its lowest digit. All differences are those of bytes. -/
def RowWidth.shift? (width : RowWidth) (x : UInt8) : Option UInt8 :=
  (byteDifference? (UInt8.ofNat width.bits) 1).bind (byteDifference? · x)

/-- The pixel in column `x` and row `y`, worked out with machine words. It is none if a difference
would be below zero on the way. -/
def Glyph.pixelByShift? (g : Glyph) (width : RowWidth) (x y : UInt8) : Option Bool :=
  match g.rows[y.toNat]? with
  | some row =>
    if x < UInt8.ofNat width.bits then
      (width.shift? x).map fun places => (row >>> places.toUInt64) &&& 1 != 0
    else some false
  | none => some false

/-! ### Shifts -/

namespace RowWidth

theorem toNat_ofNat_bits (width : RowWidth) : (UInt8.ofNat width.bits).toNat = width.bits := by
  cases width <;> rfl

theorem bits_le (width : RowWidth) : width.bits ≤ 64 := by
  cases width <;> decide

theorem lt_ofNat_bits_iff {width : RowWidth} {x : UInt8} :
    x < UInt8.ofNat width.bits ↔ x.toNat < width.bits := by
  rw [UInt8.lt_iff_toNat_lt, toNat_ofNat_bits]

end RowWidth

theorem byteDifference?_of_le {a b : UInt8} (h : b.toNat ≤ a.toNat) :
    ∃ d, byteDifference? a b = some d ∧ d.toNat = a.toNat - b.toNat := by
  have le : b ≤ a := UInt8.le_iff_toNat_le.2 h
  exact ⟨a - b, if_pos le, UInt8.toNat_sub_of_le a b le⟩

/-- A row is moved by as many places as there are columns to the right of the one looked at. -/
theorem RowWidth.exists_shift? {width : RowWidth} {x : UInt8} (inside : x.toNat < width.bits) :
    ∃ places, width.shift? x = some places ∧ places.toNat = width.bits - 1 - x.toNat := by
  have bits := width.toNat_ofNat_bits
  have one : (1 : UInt8).toNat = 1 := rfl
  obtain ⟨last, hlast, lastColumn⟩ := @byteDifference?_of_le (UInt8.ofNat width.bits) 1 (by omega)
  obtain ⟨places, hplaces, count⟩ := @byteDifference?_of_le last x (by omega)
  exact ⟨places, by rw [shift?, hlast, Option.bind_some, hplaces], by omega⟩

/-- The lowest digit of a word that was moved to the right is one of its digits. -/
theorem lowestDigit_shiftRight (row : UInt64) {places : UInt8} (h : places.toNat < 64) :
    ((row >>> places.toUInt64) &&& 1 != 0) = row.toNat.testBit places.toNat := by
  have moved : ((row >>> places.toUInt64) &&& 1).toNat = row.toNat / 2 ^ places.toNat % 2 := by
    rw [UInt64.toNat_and, UInt64.toNat_shiftRight, UInt8.toNat_toUInt64, Nat.mod_eq_of_lt h,
      UInt64.toNat_one, Nat.and_one_is_mod, Nat.shiftRight_eq_div_pow]
  rw [Nat.testBit_eq_decide_div_mod_eq, ← moved, Bool.eq_iff_iff, bne_iff_ne, ne_eq,
    ← UInt64.toNat_inj, decide_eq_true_iff, UInt64.toNat_zero]
  omega

/-- A pixel is worked out with machine words, and no difference is below zero. -/
theorem Glyph.pixelByShift?_eq (g : Glyph) (width : RowWidth) (x y : UInt8) :
    g.pixelByShift? width x y = some (g.pixel width x y) := by
  unfold pixelByShift? pixel
  cases g.rows[y.toNat]? with
  | none => rfl
  | some row =>
    dsimp only
    by_cases inside : x.toNat < width.bits
    · obtain ⟨places, shift, count⟩ := RowWidth.exists_shift? inside
      have small : places.toNat < 64 := by
        have bits := width.bits_le
        omega
      rw [if_pos (RowWidth.lt_ofNat_bits_iff.2 inside), shift, Option.map_some,
        lowestDigit_shiftRight row small, count, decide_eq_true inside, Bool.true_and]
    · rw [if_neg (mt RowWidth.lt_ofNat_bits_iff.1 inside), decide_eq_false inside, Bool.false_and]

/-! ### Rows as sums of their pixels -/

/-- The binary digits of a number up to a place make up its rest by the power of two there. -/
theorem sum_testBit_eq_mod (n width : Nat) :
    ∑ i ∈ Finset.range width, (n.testBit i).toNat * 2 ^ i = n % 2 ^ width := by
  induction width with
  | zero => rw [Finset.sum_range_zero, pow_zero, Nat.mod_one]
  | succ width ih =>
    rw [Finset.sum_range_succ, ih, Nat.toNat_testBit, Nat.mod_pow_succ, Nat.mul_comm]

/-- A number below a power of two is the sum of its binary digits, the most significant first. -/
theorem eq_sum_testBit {n width : Nat} (h : n < 2 ^ width) :
    n = ∑ x ∈ Finset.range width, (n.testBit (width - 1 - x)).toNat * 2 ^ (width - 1 - x) := by
  rw [Finset.sum_range_reflect fun i => (n.testBit i).toNat * 2 ^ i, sum_testBit_eq_mod,
    Nat.mod_eq_of_lt h]

namespace Glyph

variable {g g' : Glyph} {width : RowWidth} {x y : UInt8} {row : UInt64}

theorem pixel_of_row (h : g.rows[y.toNat]? = some row) :
    g.pixel width x y =
      (decide (x.toNat < width.bits) && row.toNat.testBit (width.bits - 1 - x.toNat)) := by
  rw [pixel, h]

/-- No pixel outside a glyph is set, whatever its rows are. -/
theorem pixel_of_outside (h : width.bits ≤ x.toNat ∨ g.rows.length ≤ y.toNat) :
    g.pixel width x y = false := by
  obtain right | below := h
  · unfold pixel
    split
    · rw [decide_eq_false (Nat.not_lt.2 right), Bool.false_and]
    · rfl
  · rw [pixel, List.getElem?_eq_none below]

/-- A row that fits the width is the sum of the powers of two that its pixels stand for. -/
theorem row_eq_sum_pixel (h : g.rows[y.toNat]? = some row) (fit : row.toNat ≤ width.maxValue) :
    row.toNat = ∑ x ∈ Finset.range width.bits,
      (g.pixel width (UInt8.ofNat x) y).toNat * 2 ^ (width.bits - 1 - x) := by
  refine (eq_sum_testBit (RowWidth.lt_two_pow_bits_iff.2 fit)).trans ?_
  refine Finset.sum_congr rfl fun x hx => ?_
  have inside : x < width.bits := Finset.mem_range.1 hx
  have column : (UInt8.ofNat x).toNat = x := by
    have bits := width.bits_le
    rw [UInt8.toNat_ofNat', Nat.mod_eq_of_lt (by omega)]
  rw [pixel_of_row h, column, decide_eq_true inside, Bool.true_and]

/-- Rows that fit the width are equal if their pixels are. -/
theorem row_eq_of_pixel {row' : UInt64} (h : g.rows[y.toNat]? = some row)
    (h' : g'.rows[y.toNat]? = some row') (fit : row.toNat ≤ width.maxValue)
    (fit' : row'.toNat ≤ width.maxValue)
    (same : ∀ x, g.pixel width x y = g'.pixel width x y) : row = row' := by
  apply UInt64.toNat_inj.1
  rw [row_eq_sum_pixel h fit, row_eq_sum_pixel h' fit']
  simp only [same]

/-- A glyph of at most as many rows as there are bytes is told by its index and its pixels, if its
rows fit the width. -/
theorem eq_iff_pixel_eq (index : g.index = g'.index) (height : g.rows.length = g'.rows.length)
    (addressable : g.rows.length ≤ 256) (fit : ∀ row ∈ g.rows, row.toNat ≤ width.maxValue)
    (fit' : ∀ row ∈ g'.rows, row.toNat ≤ width.maxValue) :
    g = g' ↔ ∀ x y, g.pixel width x y = g'.pixel width x y := by
  constructor
  · rintro rfl x y
    rfl
  · intro same
    have rows : g.rows = g'.rows := by
      apply List.ext_getElem height
      intro y hy hy'
      have place : (UInt8.ofNat y).toNat = y := by
        rw [UInt8.toNat_ofNat', Nat.mod_eq_of_lt (by omega)]
      refine row_eq_of_pixel (y := UInt8.ofNat y) ?_ ?_ (fit _ (List.getElem_mem hy))
        (fit' _ (List.getElem_mem hy')) fun x => same x (UInt8.ofNat y)
      · rw [place, List.getElem?_eq_getElem hy]
      · rw [place, List.getElem?_eq_getElem hy']
    cases g
    cases g'
    exact congrArg₂ Glyph.mk index rows

/-- The pixels of a glyph tell its rows. A row that fits the width is the sum of the powers of two
that its set pixels stand for, no pixel outside the glyph is set, and the places by which a row is
moved are bytes below 64, none of them worked out by way of a difference below zero. So glyphs with
the same index and the same number of rows that fit are equal exactly if all their pixels are. -/
theorem pixels_determine_rows (g : Glyph) (width : RowWidth) :
    (∀ y row, g.rows[y.toNat]? = some row → row.toNat ≤ width.maxValue →
      row.toNat = ∑ x ∈ Finset.range width.bits,
        (g.pixel width (UInt8.ofNat x) y).toNat * 2 ^ (width.bits - 1 - x)) ∧
    (∀ x y, width.bits ≤ x.toNat ∨ g.rows.length ≤ y.toNat → g.pixel width x y = false) ∧
    (∀ x y, g.pixelByShift? width x y = some (g.pixel width x y)) ∧
    (∀ x : UInt8, x.toNat < width.bits → ∃ places, width.shift? x = some places ∧
      places.toNat ≤ 63) ∧
    ∀ g' : Glyph, g.index = g'.index → g.rows.length = g'.rows.length → g.rows.length ≤ 256 →
      (∀ row ∈ g.rows, row.toNat ≤ width.maxValue) →
      (∀ row ∈ g'.rows, row.toNat ≤ width.maxValue) →
      (g = g' ↔ ∀ x y, g.pixel width x y = g'.pixel width x y) := by
  refine ⟨fun _ _ => row_eq_sum_pixel, fun _ _ => pixel_of_outside, g.pixelByShift?_eq width,
    fun x inside => ?_, fun g' => eq_iff_pixel_eq⟩
  obtain ⟨places, shift, count⟩ := RowWidth.exists_shift? inside
  have bits := width.bits_le
  exact ⟨places, shift, by omega⟩

/-- A row of the full width whose first and last pixel are set. Its first pixel tells it from a row
without. -/
theorem pixels_determine_rows_full_width :
    let g : Glyph := ⟨65, [0x8000000000000001, 0]⟩
    let g' : Glyph := ⟨65, [1, 0]⟩
    0x8000000000000001 = ∑ x ∈ Finset.range 64,
        (g.pixel .w64 (UInt8.ofNat x) 0).toNat * 2 ^ (63 - x) ∧
      g.pixel .w64 64 0 = false ∧ g.pixel .w64 0 2 = false ∧
      (∃ places, RowWidth.w64.shift? 0 = some places ∧ places.toNat ≤ 63) ∧
      ¬ ∀ x y, g.pixel .w64 x y = g'.pixel .w64 x y := by
  intro g g'
  obtain ⟨rows, outside, -, shifts, told⟩ := pixels_determine_rows g .w64
  have fit : ∀ row ∈ g.rows, row.toNat ≤ RowWidth.w64.maxValue :=
    List.forall_mem_cons.2 ⟨by decide, List.forall_mem_singleton.2 (by decide)⟩
  have fit' : ∀ row ∈ g'.rows, row.toNat ≤ RowWidth.w64.maxValue :=
    List.forall_mem_cons.2 ⟨by decide, List.forall_mem_singleton.2 (by decide)⟩
  refine ⟨rows 0 0x8000000000000001 rfl (fit _ List.mem_cons_self), outside 64 0 (by decide),
    outside 0 2 (by decide), shifts 0 (by decide), ?_⟩
  rw [← told g' rfl rfl (by decide) fit fit']
  decide

end Glyph

end BitmapFont
