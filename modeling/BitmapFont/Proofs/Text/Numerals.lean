import BitmapFont.Text.Numeral
import Mathlib.Data.List.Induction
import Mathlib.Data.Nat.Digits.Defs

/-!
# Decimal literals

A literal for a byte is a number in base ten, with any number of leading zeros and perhaps with a
plus sign before it. The reader of literals accepts these and no other text.

## Main definitions

- `IsNumeral` — the digits of a number
- `WritesByte` — the literals for a byte
-/

namespace BitmapFont.Text

/-- The value of a decimal digit. -/
def digitValue (c : Char) : Nat := c.toNat - '0'.toNat

/-- Whether a text is a number in base ten, the digit of least value last. -/
structure IsNumeral (figures : List Char) (n : Nat) : Prop where
  nonempty : figures ≠ []
  digits : ∀ c ∈ figures, '0' ≤ c ∧ c ≤ '9'
  value : Nat.ofDigits 10 (figures.reverse.map digitValue) = n

/-- Whether a text is a literal for a byte. -/
inductive WritesByte : List Char → UInt8 → Prop
  | unsigned {figures : List Char} {b : UInt8} (h : IsNumeral figures b.toNat) :
    WritesByte figures b
  | signed {figures : List Char} {b : UInt8} (h : IsNumeral figures b.toNat) :
    WritesByte ('+' :: figures) b

theorem decimalValue_eq_ofDigits (figures : List Char) :
    decimalValue figures = Nat.ofDigits 10 (figures.reverse.map digitValue) := by
  induction figures using List.reverseRecOn with
  | nil => rfl
  | append_singleton figures c ih =>
    rw [List.reverse_append, List.reverse_singleton, List.singleton_append, List.map_cons,
      Nat.ofDigits_cons, ← ih, decimalValue, List.foldl_append, decimalValue, digitValue,
      Nat.add_comm]
    rfl

theorem isDigit_iff {c : Char} : c.isDigit = true ↔ '0' ≤ c ∧ c ≤ '9' := by
  simp [Char.isDigit, Char.le_def]

theorem isNumeral_iff {figures : List Char} {n : Nat} :
    IsNumeral figures n ↔
      figures ≠ [] ∧ figures.all Char.isDigit = true ∧ decimalValue figures = n := by
  simp only [decimalValue_eq_ofDigits, List.all_eq_true, isDigit_iff]
  exact ⟨fun h => ⟨h.nonempty, h.digits, h.value⟩,
    fun ⟨nonempty, digits, value⟩ => ⟨nonempty, digits, value⟩⟩

/-- A plus sign is no digit. -/
theorem not_isNumeral_plus (rest : List Char) (n : Nat) : ¬ IsNumeral ('+' :: rest) n := by
  intro h
  have plus := h.digits '+' List.mem_cons_self
  exact absurd plus (by decide)

theorem writesByte_plus_iff {figures : List Char} {b : UInt8} :
    WritesByte ('+' :: figures) b ↔ IsNumeral figures b.toNat := by
  constructor
  · rintro (h | h)
    · exact absurd h (not_isNumeral_plus _ _)
    · exact h
  · exact .signed

theorem writesByte_iff_of_no_plus {s : List Char} {b : UInt8} (h : ∀ rest, s ≠ '+' :: rest) :
    WritesByte s b ↔ IsNumeral s b.toNat := by
  constructor
  · rintro (unsigned | _)
    · exact unsigned
    · exact absurd rfl (h _)
  · exact .unsigned

theorem ofNumeral_eq_some_iff {figures : List Char} {b : UInt8} :
    (if figures ≠ [] ∧ figures.all Char.isDigit ∧ decimalValue figures ≤ 255 then
      some (UInt8.ofNat (decimalValue figures)) else none) = some b ↔
        IsNumeral figures b.toNat := by
  rw [isNumeral_iff]
  constructor
  · intro h
    split at h
    case isTrue good =>
      obtain ⟨nonempty, digits, small⟩ := good
      obtain rfl := Option.some.inj h
      have bound : decimalValue figures < 256 := Nat.lt_succ_of_le small
      exact ⟨nonempty, digits, by rw [UInt8.toNat_ofNat', Nat.mod_eq_of_lt bound]⟩
    case isFalse => exact nomatch h
  · rintro ⟨nonempty, digits, value⟩
    have small : decimalValue figures ≤ 255 := by
      rw [value]
      exact Nat.le_of_lt_succ b.toNat_lt
    rw [if_pos ⟨nonempty, digits, small⟩, value, UInt8.ofNat_toNat]

/-- The reader of literals gives the byte that a literal is for, and nothing for another text. -/
theorem byte?_eq_some_iff {s : List Char} {b : UInt8} :
    byte? s = some b ↔ WritesByte s b := by
  unfold byte?
  rw [ofNumeral_eq_some_iff]
  split
  case h_1 rest => exact writesByte_plus_iff.symm
  case h_2 noPlus => exact (writesByte_iff_of_no_plus noPlus).symm

theorem byte?_eq_none_iff {s : List Char} : byte? s = none ↔ ∀ b, ¬ WritesByte s b := by
  simp only [Option.eq_none_iff_forall_ne_some, ne_eq, byte?_eq_some_iff]

example : WritesByte "+007".toList 7 := byte?_eq_some_iff.1 (by decide)

end BitmapFont.Text
