/-!
# Row widths

A glyph is a stack of rows of equal width. Only four widths are supported, those of the machine
integers that hold a row.
-/

namespace BitmapFont

/-- The number of pixels in a row of a glyph. -/
inductive RowWidth
  | w8
  | w16
  | w32
  | w64
  deriving DecidableEq

namespace RowWidth

/-- Every width, in ascending order. -/
def all : List RowWidth := [w8, w16, w32, w64]

/-- The number of pixels in a row. -/
def bits : RowWidth → Nat
  | w8 => 8
  | w16 => 16
  | w32 => 32
  | w64 => 64

/-- The number of bytes that a row takes in a font file. -/
def bytes (w : RowWidth) : Nat := w.bits / 8

/-- The greatest row of this width, all of whose pixels are set. -/
def maxValue (w : RowWidth) : Nat := Nat.pow 2 w.bits - 1

/-- Whether a row has no pixel beyond this width. -/
def holds (w : RowWidth) (row : UInt64) : Bool := row.toNat ≤ w.maxValue

/-- The width of rows with a given number of pixels. -/
def ofBits? (n : Nat) : Option RowWidth := all.find? (·.bits == n)

theorem mem_all (w : RowWidth) : w ∈ all := by cases w <;> decide

theorem bits_injective {v w : RowWidth} (h : v.bits = w.bits) : v = w := by
  cases v <;> cases w <;> simp_all [bits]

/-- A width is found by its number of pixels and by no other number. -/
theorem ofBits?_eq_some_iff {n : Nat} {w : RowWidth} : ofBits? n = some w ↔ w.bits = n := by
  constructor
  · intro h
    simpa using List.find?_some h
  · rintro rfl
    cases w <;> rfl

theorem holds_iff {w : RowWidth} {row : UInt64} : w.holds row = true ↔ row.toNat ≤ w.maxValue :=
  decide_eq_true_iff

theorem bytes_mul_eight (w : RowWidth) : 8 * w.bytes = w.bits := by cases w <;> rfl

end RowWidth

end BitmapFont
