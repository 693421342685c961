import BitmapFont.Charset
import BitmapFont.Text.Utf8

/-!
# Characters of ASCII

The characters below code point 128 are those of one byte, and their code points are their indices.
-/

namespace BitmapFont.Text

theorem toNat_ofNat_of_isValidChar {n : Nat} (h : n.isValidChar) : (Char.ofNat n).toNat = n := by
  rw [Char.ofNat, dif_pos h]
  rfl

/-- A number that is no code point stands for the zero character. -/
theorem ofNat_of_not_isValidChar {n : Nat} (h : ¬ n.isValidChar) : Char.ofNat n = '\x00' := by
  rw [Char.ofNat, dif_neg h]
  rfl

theorem toNat_ofNat_of_lt_128 {n : Nat} (h : n < 128) : (Char.ofNat n).toNat = n :=
  toNat_ofNat_of_isValidChar (Or.inl (by omega))

theorem toNat_byte_of_lt_128 {c : Char} (h : c.toNat < 128) :
    (UInt8.ofNat c.toNat).toNat = c.toNat := by
  rw [UInt8.toNat_ofNat', Nat.mod_eq_of_lt (by omega)]

theorem utf8Size_of_lt_128 {c : Char} (h : c.toNat < 128) : c.utf8Size = 1 := by
  rw [Char.utf8Size_eq_one_iff, UInt32.le_iff_toNat_le]
  exact Nat.le_of_lt_succ h

theorem lt_128_of_isAlphanum {c : Char} (h : c.isAlphanum = true) : c.toNat < 128 := by
  change ((decide ('A'.val ≤ c.val ∧ c.val ≤ 'Z'.val) || ('a'.val ≤ c.val && c.val ≤ 'z'.val)) ||
    ('0'.val ≤ c.val && c.val ≤ '9'.val)) = true at h
  simp only [Bool.or_eq_true, Bool.and_eq_true, decide_eq_true_eq, UInt32.le_iff_toNat_le] at h
  have bound : c.val.toNat ≤ 122 := by
    obtain (upper | lower) | digit := h
    · exact Nat.le_trans upper.2 (by decide)
    · exact lower.2
    · exact Nat.le_trans digit.2 (by decide)
  exact Nat.lt_of_le_of_lt bound (by decide)

theorem utf8Length_append (s t : String) :
    utf8Length (s ++ t) = utf8Length s + utf8Length t := by
  have sizes (chars : List Char) (n : Nat) :
      chars.foldr (fun c n => c.utf8Size + n) n =
        chars.foldr (fun c n => c.utf8Size + n) 0 + n := by
    induction chars with
    | nil => rw [List.foldr_nil, List.foldr_nil, Nat.zero_add]
    | cons c rest ih => rw [List.foldr_cons, List.foldr_cons, ih, Nat.add_assoc]
  rw [utf8Length, String.toList_append, List.foldr_append, sizes, utf8Length, utf8Length]

/-- A text takes at least one byte for each character. -/
theorem length_le_utf8Length (s : String) : s.toList.length ≤ utf8Length s := by
  rw [utf8Length]
  induction s.toList with
  | nil => exact Nat.le_refl 0
  | cons c rest ih =>
    rw [List.foldr_cons, List.length_cons, Nat.add_comm]
    exact Nat.add_le_add c.utf8Size_pos ih

/-- A text of ASCII characters takes one byte for each. -/
theorem utf8Length_of_ascii {s : String} (h : ∀ c ∈ s.toList, c.toNat < 128) :
    utf8Length s = s.toList.length := by
  have sizes : ∀ chars : List Char, (∀ c ∈ chars, c.toNat < 128) →
      chars.foldr (fun c n => c.utf8Size + n) 0 = chars.length := by
    intro chars hchars
    induction chars with
    | nil => rfl
    | cons c r ih =>
      rw [List.foldr_cons, ih fun c hc => hchars c (by simp [hc]),
        utf8Size_of_lt_128 (hchars c (by simp)), List.length_cons, Nat.add_comm]
  exact sizes s.toList h

end BitmapFont.Text

namespace BitmapFont.Charset

theorem eq_ascii (charset : Charset) : charset = ascii := by
  cases charset
  rfl

/-- The ASCII index of a character, which is its code point. -/
theorem encode_ascii_eq_some_iff {c : Char} {index : UInt8} :
    ascii.encode c = some index ↔ c.toNat < 128 ∧ index = UInt8.ofNat c.toNat := by
  by_cases small : c.toNat < 128
  · simp [encode, small, eq_comm]
  · simp [encode, small]

end BitmapFont.Charset
