import BitmapFont.Proofs.Text.Ascii

/-!
# Encodings

The decoder is an automaton for the encodings of characters: the bytes that it reads from the start
of a character to its end are the encoding of that character and no other bytes.

## Main definitions

- `Decoder.Opens` — the first bytes of characters that have several
- `Decoder.Reads` — the bytes that complete a character
-/

namespace BitmapFont.Text

variable {a b b₃ b₄ : UInt8} {c : Char} {bytes : List UInt8}

theorem ite_le_iff {P : Prop} [Decidable P] {m n k : Nat} (h : n ≤ m) :
    (if P then m else n) ≤ k ↔ (P → m ≤ k) ∧ n ≤ k := by
  split
  case isTrue holds => exact ⟨fun le => ⟨fun _ => le, by omega⟩, fun both => both.1 holds⟩
  case isFalse fails => exact ⟨fun le => ⟨fun holds => absurd holds fails, le⟩, And.right⟩

theorem le_ite_iff {P : Prop} [Decidable P] {m n k : Nat} (h : m ≤ n) :
    k ≤ (if P then m else n) ↔ (P → k ≤ m) ∧ k ≤ n := by
  split
  case isTrue holds => exact ⟨fun le => ⟨fun _ => le, by omega⟩, fun both => both.1 holds⟩
  case isFalse fails => exact ⟨fun le => ⟨fun holds => absurd holds fails, le⟩, And.right⟩

/-! ### Encodings of one to four bytes -/

theorem utf8EncodeChar_cases (c : Char) :
    (∃ a, String.utf8EncodeChar c = [a]) ∨ (∃ a b, String.utf8EncodeChar c = [a, b]) ∨
      (∃ a b b₃, String.utf8EncodeChar c = [a, b, b₃]) ∨
      ∃ a b b₃ b₄, String.utf8EncodeChar c = [a, b, b₃, b₄] := by
  fun_cases String.utf8EncodeChar c with
  | case1 => exact Or.inl ⟨_, rfl⟩
  | case2 => exact Or.inr (Or.inl ⟨_, _, rfl⟩)
  | case3 => exact Or.inr (Or.inr (Or.inl ⟨_, _, _, rfl⟩))
  | case4 => exact Or.inr (Or.inr (Or.inr ⟨_, _, _, _, rfl⟩))

theorem utf8EncodeChar_eq_one_iff :
    String.utf8EncodeChar c = [a] ↔ a.toNat < 0x80 ∧ c.toNat = a.toNat := by
  change _ ↔ _ ∧ c.val.toNat = _
  fun_cases String.utf8EncodeChar c with
  | case1 =>
    simp only [List.cons.injEq, ← UInt8.toNat_inj, UInt8.toNat_ofNat', and_true]
    omega
  | case2 | case3 | case4 =>
    simp only [List.cons.injEq, reduceCtorEq, and_false, false_iff]
    omega

theorem utf8EncodeChar_eq_two_iff :
    String.utf8EncodeChar c = [a, b] ↔ (0xC2 ≤ a.toNat ∧ a.toNat < 0xE0) ∧
      (0x80 ≤ b.toNat ∧ b.toNat ≤ 0xBF) ∧
      c.toNat = (a.toNat - 0xC0) * 64 + (b.toNat - 0x80) := by
  change _ ↔ _ ∧ _ ∧ c.val.toNat = _
  fun_cases String.utf8EncodeChar c with
  | case2 =>
    simp only [List.cons.injEq, ← UInt8.toNat_inj, UInt8.toNat_ofNat', and_true]
    omega
  | case1 | case3 | case4 =>
    simp only [List.cons.injEq, reduceCtorEq, and_false, false_iff]
    omega

/-- The bounds on the second byte leave out encodings that are too long, and surrogates. -/
theorem utf8EncodeChar_eq_three_iff :
    String.utf8EncodeChar c = [a, b, b₃] ↔ (0xE0 ≤ a.toNat ∧ a.toNat < 0xF0) ∧
      ((a.toNat = 0xE0 → 0xA0 ≤ b.toNat) ∧ 0x80 ≤ b.toNat) ∧
      ((a.toNat = 0xED → b.toNat ≤ 0x9F) ∧ b.toNat ≤ 0xBF) ∧
      (0x80 ≤ b₃.toNat ∧ b₃.toNat ≤ 0xBF) ∧
      c.toNat = ((a.toNat - 0xE0) * 64 + (b.toNat - 0x80)) * 64 + (b₃.toNat - 0x80) := by
  change _ ↔ _ ∧ _ ∧ _ ∧ _ ∧ c.val.toNat = _
  have valid : c.val.toNat < 0xD800 ∨ 0xDFFF < c.val.toNat ∧ c.val.toNat < 0x110000 := c.valid
  fun_cases String.utf8EncodeChar c with
  | case3 =>
    simp only [List.cons.injEq, ← UInt8.toNat_inj, UInt8.toNat_ofNat', and_true]
    omega
  | case1 | case2 | case4 =>
    simp only [List.cons.injEq, reduceCtorEq, and_false, false_iff]
    omega

/-- The bounds on the second byte leave out encodings that are too long, and numbers above the last
code point. -/
theorem utf8EncodeChar_eq_four_iff :
    String.utf8EncodeChar c = [a, b, b₃, b₄] ↔ (0xF0 ≤ a.toNat ∧ a.toNat < 0xF5) ∧
      ((a.toNat = 0xF0 → 0x90 ≤ b.toNat) ∧ 0x80 ≤ b.toNat) ∧
      ((a.toNat = 0xF4 → b.toNat ≤ 0x8F) ∧ b.toNat ≤ 0xBF) ∧
      (0x80 ≤ b₃.toNat ∧ b₃.toNat ≤ 0xBF) ∧ (0x80 ≤ b₄.toNat ∧ b₄.toNat ≤ 0xBF) ∧
      c.toNat = (((a.toNat - 0xF0) * 64 + (b.toNat - 0x80)) * 64 + (b₃.toNat - 0x80)) * 64 +
        (b₄.toNat - 0x80) := by
  change _ ↔ _ ∧ _ ∧ _ ∧ _ ∧ _ ∧ c.val.toNat = _
  have valid : c.val.toNat < 0xD800 ∨ 0xDFFF < c.val.toNat ∧ c.val.toNat < 0x110000 := c.valid
  fun_cases String.utf8EncodeChar c with
  | case4 =>
    simp only [List.cons.injEq, ← UInt8.toNat_inj, UInt8.toNat_ofNat', and_true]
    omega
  | case1 | case2 | case3 =>
    simp only [List.cons.injEq, reduceCtorEq, and_false, false_iff]
    omega

/-! ### The decoder as an automaton -/

/-- The number that a character has so far after one more byte of its encoding. -/
def Partial.bitsWith (p : Partial) (b : UInt8) : Nat :=
  p.bits * 64 + (b.toNat - 0x80)

/-- The bound on a byte that is not bounded more closely is the least one. -/
theorem Partial.least_le : 0x80 ≤ 0x80 :=
  Nat.le_refl _

/-- The start of a character's encoding after one more byte of it. -/
def Partial.next (p : Partial) (b : UInt8) : Partial :=
  ⟨p.bitsWith b, p.missing - 1, 0x80, 0xBF, Partial.least_le⟩

/-- Whether a byte continues the encoding of a character. -/
def Partial.Continues (p : Partial) (b : UInt8) : Prop :=
  p.low ≤ b.toNat ∧ b.toNat ≤ p.high

theorem Partial.next_continues (p : Partial) (b : UInt8) : (p.next b).Continues 0x80 :=
  ⟨Partial.least_le, (by decide : 0x80 ≤ 0xBF)⟩

namespace Decoder

/-- A byte that begins the encoding of a character of several bytes, with what it tells of the
character. -/
inductive Opens : UInt8 → Partial → Prop
  | two {b : UInt8} (low : 0xC2 ≤ b.toNat) (high : b.toNat < 0xE0) :
      Opens b ⟨b.toNat - 0xC0, 1, 0x80, 0xBF, Nat.le_refl _⟩
  | three {b : UInt8} (low : 0xE0 ≤ b.toNat) (high : b.toNat < 0xF0) :
      Opens b ⟨b.toNat - 0xE0, 2, if b.toNat = 0xE0 then 0xA0 else 0x80,
        if b.toNat = 0xED then 0x9F else 0xBF, by split <;> decide⟩
  | four {b : UInt8} (low : 0xF0 ≤ b.toNat) (high : b.toNat < 0xF5) :
      Opens b ⟨b.toNat - 0xF0, 3, if b.toNat = 0xF0 then 0x90 else 0x80,
        if b.toNat = 0xF4 then 0x8F else 0xBF, by split <;> decide⟩

/-- The bytes that complete a character, from its start or after a part of its encoding. -/
inductive Reads : Option Partial → List UInt8 → Char → Prop
  | ascii {b : UInt8} (small : b.toNat < 0x80) : Reads none [b] (Char.ofNat b.toNat)
  | opens {b : UInt8} {p : Partial} {bytes : List UInt8} {c : Char} (first : Opens b p)
      (rest : Reads (some p) bytes c) : Reads none (b :: bytes) c
  | last {p : Partial} {b : UInt8} (continues : p.Continues b) (single : p.missing ≤ 1) :
      Reads (some p) [b] (Char.ofNat (p.bitsWith b))
  | next {p : Partial} {b : UInt8} {bytes : List UInt8} {c : Char} (continues : p.Continues b)
      (several : 1 < p.missing) (rest : Reads (some (p.next b)) bytes c) :
      Reads (some p) (b :: bytes) c

variable {p : Partial}

theorem Reads.one (h : Reads (some p) bytes c) (single : p.missing = 1) :
    ∃ b, bytes = [b] ∧ p.Continues b ∧ c = Char.ofNat (p.bitsWith b) := by
  cases h with
  | last continues => exact ⟨_, rfl, continues, rfl⟩
  | next _ several => exact absurd single (by omega)

theorem Reads.several (h : Reads (some p) bytes c) (several : 1 < p.missing) :
    ∃ b rest, bytes = b :: rest ∧ p.Continues b ∧ Reads (some (p.next b)) rest c := by
  cases h with
  | last _ single => exact absurd single (by omega)
  | next continues _ rest => exact ⟨_, _, rfl, continues, rest⟩

theorem encoding_of_reads (h : Reads none bytes c) : String.utf8EncodeChar c = bytes := by
  have value {n : Nat} (same : c = Char.ofNat n)
      (valid : n < 0xD800 ∨ 0xDFFF < n ∧ n < 0x110000) : c.toNat = n := by
    rw [same, toNat_ofNat_of_isValidChar valid]
  cases h with
  | ascii small => exact utf8EncodeChar_eq_one_iff.2 ⟨small, toNat_ofNat_of_lt_128 small⟩
  | opens first rest =>
    cases first with
    | two low high =>
      obtain ⟨b, rfl, second, same⟩ := rest.one rfl
      have bound : b.toNat ≤ 0xBF := second.2
      exact utf8EncodeChar_eq_two_iff.2 ⟨⟨low, high⟩, second, value same (by omega)⟩
    | three low high =>
      obtain ⟨b, _, rfl, second, rest⟩ := rest.several Nat.one_lt_two
      obtain ⟨b₃, rfl, third, same⟩ := rest.one rfl
      have least := (ite_le_iff (by decide)).1 second.1
      have greatest := (le_ite_iff (by decide)).1 second.2
      have bound : b₃.toNat ≤ 0xBF := third.2
      exact utf8EncodeChar_eq_three_iff.2
        ⟨⟨low, high⟩, least, greatest, third, value same (by omega)⟩
    | four low high =>
      obtain ⟨b, _, rfl, second, rest⟩ := rest.several (by decide : 1 < 3)
      obtain ⟨b₃, _, rfl, third, rest⟩ := rest.several Nat.one_lt_two
      obtain ⟨b₄, rfl, fourth, same⟩ := rest.one rfl
      have least := (ite_le_iff (by decide)).1 second.1
      have greatest := (le_ite_iff (by decide)).1 second.2
      have bound : b₃.toNat ≤ 0xBF := third.2
      have bound' : b₄.toNat ≤ 0xBF := fourth.2
      exact utf8EncodeChar_eq_four_iff.2
        ⟨⟨low, high⟩, least, greatest, third, fourth, value same (by omega)⟩

theorem reads_encoding (c : Char) : Reads none (String.utf8EncodeChar c) c := by
  have number (n : Nat) (same : c.toNat = n) : Char.ofNat n = c := by
    rw [← same, Char.ofNat_toNat]
  obtain ⟨a, same⟩ | ⟨a, b, same⟩ | ⟨a, b, b₃, same⟩ | ⟨a, b, b₃, b₄, same⟩ :=
    utf8EncodeChar_cases c
  · obtain ⟨small, value⟩ := utf8EncodeChar_eq_one_iff.1 same
    rw [same, ← number _ value]
    exact .ascii small
  · obtain ⟨⟨low, high⟩, second, value⟩ := utf8EncodeChar_eq_two_iff.1 same
    rw [same, ← number _ value]
    exact .opens (.two low high) (.last second (Nat.le_refl 1))
  · obtain ⟨⟨low, high⟩, least, greatest, third, value⟩ := utf8EncodeChar_eq_three_iff.1 same
    have second :=
      And.intro ((ite_le_iff (by decide)).2 least) ((le_ite_iff (by decide)).2 greatest)
    rw [same, ← number _ value]
    exact .opens (.three low high) (.next second Nat.one_lt_two (.last third (Nat.le_refl 1)))
  · obtain ⟨⟨low, high⟩, least, greatest, third, fourth, value⟩ :=
      utf8EncodeChar_eq_four_iff.1 same
    have second :=
      And.intro ((ite_le_iff (by decide)).2 least) ((le_ite_iff (by decide)).2 greatest)
    rw [same, ← number _ value]
    exact .opens (.four low high) (.next second (by decide : 1 < 3)
      (.next third Nat.one_lt_two (.last fourth (Nat.le_refl 1))))

/-- What is read from a character's start to its end is the encoding of the character. -/
theorem reads_none_iff : Reads none bytes c ↔ String.utf8EncodeChar c = bytes := by
  constructor
  · exact encoding_of_reads
  · rintro rfl
    exact reads_encoding c

/-- Every part of an encoding can be completed. -/
theorem exists_reads_of_continues {p : Partial} {b : UInt8} (continues : p.Continues b) :
    ∃ rest c, Reads (some p) (b :: rest) c := by
  by_cases single : p.missing ≤ 1
  · exact ⟨[], _, .last continues single⟩
  · obtain ⟨rest, c, reads⟩ := exists_reads_of_continues (p.next_continues b)
    exact ⟨_, c, .next continues (Nat.not_le.1 single) reads⟩
termination_by p.missing
decreasing_by
  change p.missing - 1 < p.missing
  omega

/-- The bounds after a first byte leave some second byte. -/
theorem Opens.exists_continues (first : Opens a p) : ∃ b, p.Continues b := by
  cases first with
  | two => exact ⟨0x80, Partial.least_le, (by decide : 0x80 ≤ 0xBF)⟩
  | three =>
    by_cases least : a.toNat = 0xE0
    · exact ⟨0xA0, by simp [least], by simp [least]⟩
    · exact ⟨0x80, by simp [least], by dsimp only; split <;> decide⟩
  | four =>
    by_cases least : a.toNat = 0xF0
    · exact ⟨0x90, by simp [least], by simp [least]⟩
    · exact ⟨0x80, by simp [least], by dsimp only; split <;> decide⟩

theorem Opens.exists_reads (first : Opens a p) : ∃ rest c, Reads none (a :: rest) c := by
  obtain ⟨b, continues⟩ := first.exists_continues
  obtain ⟨rest, c, reads⟩ := exists_reads_of_continues continues
  exact ⟨_, c, .opens first reads⟩

end Decoder

end BitmapFont.Text
