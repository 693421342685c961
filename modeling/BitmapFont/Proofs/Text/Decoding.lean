import BitmapFont.Proofs.Text.Encodings
import Mathlib.Data.Nat.Find

/-!
# Decoding

The decoder gives every byte string the text for which it stands: the characters that are encoded,
and one replacement character for each longest damage. A byte below `0x80` is always a character of
its own, so nothing before it matters to what follows it.

## Main definitions

- `Damage` — bytes for which one replacement character stands
- `Decodes` — the characters for which bytes stand
- `Decoder.decodeFrom` — what the decoder gives from one of its states
-/

namespace BitmapFont.Text

variable {b : UInt8} {c : Char} {bytes more rest : List UInt8} {p : Partial}
  {state : Option Partial}

namespace Decoder

/-- The decoder with characters that were decoded before its own. -/
def after (d : Decoder) (earlier : List Char) : Decoder :=
  ⟨d.decoded ++ earlier, d.pending⟩

theorem start_after (d : Decoder) (earlier : List Char) (b : UInt8) :
    (d.after earlier).start b = (d.start b).after earlier := by
  unfold start
  dsimp only
  repeat' split
  all_goals rfl

theorem feed_after (d : Decoder) (earlier : List Char) (b : UInt8) :
    (d.after earlier).feed b = (d.feed b).after earlier := by
  obtain ⟨decoded, pending⟩ := d
  cases pending with
  | none => exact start_after _ _ _
  | some p =>
    change feed ⟨decoded ++ earlier, some p⟩ b = _
    unfold feed
    dsimp only
    split
    · split <;> rfl
    · exact start_after ⟨replacementChar :: decoded, none⟩ earlier b

theorem foldl_feed_after (d : Decoder) (earlier : List Char) (bytes : List UInt8) :
    bytes.foldl feed (d.after earlier) = (bytes.foldl feed d).after earlier := by
  induction bytes generalizing d with
  | nil => rfl
  | cons b rest ih => rw [List.foldl_cons, List.foldl_cons, feed_after, ih]

theorem finish_after (d : Decoder) (earlier : List Char) :
    (d.after earlier).finish = earlier.reverse ++ d.finish := by
  obtain ⟨decoded, pending⟩ := d
  cases pending with
  | none => exact List.reverse_append
  | some p =>
    change (replacementChar :: decoded ++ earlier).reverse = _
    rw [List.reverse_append]
    rfl

/-- The first byte of a character is the whole of it, or it opens it, or it is damage. -/
theorem start_cases (d : Decoder) (b : UInt8) :
    (b.toNat < 0x80 ∧ d.start b = d.push (Char.ofNat b.toNat)) ∨
      (∃ p, Opens b p ∧ d.start b = ⟨d.decoded, some p⟩) ∨ d.start b = d.push replacementChar := by
  fun_cases start d b with
  | case1 n small => exact Or.inl ⟨small, rfl⟩
  | case2 n large => exact Or.inr (Or.inr rfl)
  | case3 n _ low high => exact Or.inr (Or.inl ⟨_, .two (Nat.not_lt.1 low) high, rfl⟩)
  | case4 n _ _ low high => exact Or.inr (Or.inl ⟨_, .three (Nat.not_lt.1 low) high, rfl⟩)
  | case5 n _ _ _ low high => exact Or.inr (Or.inl ⟨_, .four (Nat.not_lt.1 low) high, rfl⟩)
  | case6 n large => exact Or.inr (Or.inr rfl)

theorem start_of_lt_128 (d : Decoder) (small : b.toNat < 0x80) :
    d.start b = d.push (Char.ofNat b.toNat) :=
  if_pos small

theorem start_of_opens (d : Decoder) (first : Opens b p) : d.start b = ⟨d.decoded, some p⟩ := by
  unfold start
  dsimp only
  cases first with
  | two low high => rw [if_neg (by omega), if_neg (by omega), if_pos high]
  | three low high => rw [if_neg (by omega), if_neg (by omega), if_neg (by omega), if_pos high]
  | four low high =>
    rw [if_neg (by omega), if_neg (by omega), if_neg (by omega), if_neg (by omega), if_pos high]

theorem feed_last (decoded : List Char) (continues : p.Continues b) (single : p.missing ≤ 1) :
    feed ⟨decoded, some p⟩ b = ⟨Char.ofNat (p.bitsWith b) :: decoded, none⟩ :=
  (if_pos continues).trans (if_pos single)

theorem feed_next (decoded : List Char) (continues : p.Continues b) (several : 1 < p.missing) :
    feed ⟨decoded, some p⟩ b = ⟨decoded, some (p.next b)⟩ :=
  (if_pos continues).trans (if_neg (Nat.not_le.2 several))

/-- A byte that does not continue a character is not lost with it. -/
theorem feed_of_not_continues (decoded : List Char) (damaged : ¬ p.Continues b) :
    feed ⟨decoded, some p⟩ b = (empty.feed b).after (replacementChar :: decoded) :=
  (if_neg damaged).trans (start_after empty (replacementChar :: decoded) b)

theorem foldl_feed_of_reads (h : Reads state bytes c) :
    bytes.foldl feed ⟨[], state⟩ = ⟨[c], none⟩ := by
  induction h with
  | ascii small => exact start_of_lt_128 empty small
  | opens first _ ih =>
    rw [List.foldl_cons]
    change List.foldl feed (empty.start _) _ = _
    rw [start_of_opens empty first]
    exact ih
  | last continues single => exact feed_last [] continues single
  | next continues several _ ih => rw [List.foldl_cons, feed_next [] continues several, ih]

/-- A byte before the last of a character leaves the character pending. All that completes it then
completes it with that byte, too. -/
theorem feed_of_reads_cons (h : Reads state (b :: more) c) (partly : more ≠ []) :
    ∃ p, feed ⟨[], state⟩ b = ⟨[], some p⟩ ∧ Reads (some p) more c ∧
      ∀ rest c', Reads (some p) rest c' → Reads state (b :: rest) c' := by
  cases h with
  | ascii => exact absurd rfl partly
  | opens first rest =>
    exact ⟨_, start_of_opens empty first, rest, fun _ _ completes => .opens first completes⟩
  | last => exact absurd rfl partly
  | next continues several rest =>
    exact ⟨_, feed_next [] continues several, rest, fun _ _ => .next continues several⟩

theorem foldl_feed_of_reads_append (h : Reads state (bytes ++ more) c) (nonempty : bytes ≠ [])
    (partly : more ≠ []) :
    ∃ p, bytes.foldl feed ⟨[], state⟩ = ⟨[], some p⟩ ∧
      ∀ rest c', Reads (some p) rest c' → Reads state (bytes ++ rest) c' := by
  induction bytes generalizing state with
  | nil => exact absurd rfl nonempty
  | cons b bytes ih =>
    obtain ⟨p, fed, whole, completes⟩ :=
      feed_of_reads_cons h (List.append_ne_nil_of_right_ne_nil bytes partly)
    by_cases single : bytes = []
    · subst single
      exact ⟨p, fed, completes⟩
    · obtain ⟨q, run, completes'⟩ := ih whole single
      refine ⟨q, ?_, fun rest c' reads => completes _ _ (completes' rest c' reads)⟩
      rw [List.foldl_cons, fed, run]

/-- The characters that bytes are decoded to, at the start of a character or after a part of its
encoding. -/
def decodeFrom (state : Option Partial) (bytes : List UInt8) : List Char :=
  (bytes.foldl feed ⟨[], state⟩).finish

theorem finish_foldl_feed (d : Decoder) (bytes : List UInt8) :
    (bytes.foldl feed d).finish = d.decoded.reverse ++ decodeFrom d.pending bytes := by
  rw [decodeFrom, ← finish_after, ← foldl_feed_after]
  rfl

theorem decodeFrom_append (state : Option Partial) (bytes more : List UInt8) :
    decodeFrom state (bytes ++ more) =
      (bytes.foldl feed ⟨[], state⟩).decoded.reverse ++
        decodeFrom (bytes.foldl feed ⟨[], state⟩).pending more := by
  rw [decodeFrom, List.foldl_append, finish_foldl_feed]

/-- A character that is not continued is lost, and nothing of what follows. -/
theorem decodeFrom_of_damaged (damaged : ∀ b rest, bytes = b :: rest → ¬ p.Continues b) :
    decodeFrom (some p) bytes = replacementChar :: decodeFrom none bytes := by
  cases bytes with
  | nil => rfl
  | cons b rest =>
    rw [decodeFrom, List.foldl_cons, feed_of_not_continues [] (damaged b rest rfl),
      foldl_feed_after, finish_after]
    rfl

/-- A byte below `0x80` is a character of its own, whatever is pending. -/
theorem feed_of_lt_128 (d : Decoder) (small : b.toNat < 0x80) :
    d.feed b = ⟨Char.ofNat b.toNat :: d.finish.reverse, none⟩ := by
  obtain ⟨decoded, pending⟩ := d
  have single : empty.feed b = ⟨[Char.ofNat b.toNat], none⟩ := start_of_lt_128 empty small
  cases pending with
  | none =>
    change start ⟨decoded, none⟩ b = Decoder.mk (_ :: decoded.reverse.reverse) none
    rw [start_of_lt_128 _ small, List.reverse_reverse]
    rfl
  | some p =>
    have damaged : ¬ p.Continues b := fun continues =>
      absurd (Nat.le_trans p.le_low continues.1) (Nat.not_le.2 small)
    change _ = Decoder.mk (_ :: (replacementChar :: decoded).reverse.reverse) none
    rw [feed_of_not_continues decoded damaged, single, List.reverse_reverse]
    rfl

theorem decodeFrom_append_cons (state : Option Partial) (bytes more : List UInt8)
    (small : b.toNat < 0x80) :
    decodeFrom state (bytes ++ b :: more) =
      decodeFrom state bytes ++ Char.ofNat b.toNat :: decodeFrom none more := by
  rw [decodeFrom, List.foldl_append, List.foldl_cons, feed_of_lt_128 _ small, finish_foldl_feed,
    List.reverse_cons, List.reverse_reverse, List.append_assoc]
  rfl

end Decoder

theorem toList_decode (bytes : List UInt8) :
    (decode bytes).toList = Decoder.decodeFrom none bytes :=
  String.toList_ofList

/-! ### Damage -/

/-- Whether bytes begin the encoding of a character. -/
def BeginsChar (bytes : List UInt8) : Prop :=
  ∃ c, bytes <+: String.utf8EncodeChar c

/-- Bytes before others for which one replacement character stands: no character is encoded there,
and they are the longest beginning of one, or a single byte that begins none. -/
structure Damage (bad rest : List UInt8) : Prop where
  undecodable : ∀ c, ¬ String.utf8EncodeChar c <+: bad ++ rest
  nonempty : bad ≠ []
  begun : BeginsChar bad ∨ bad.length = 1
  longest : ∀ bytes, bytes <+: bad ++ rest → BeginsChar bytes → bytes.length ≤ bad.length

/-- The characters for which bytes stand: those that they encode, and a replacement character for
each longest damage. -/
inductive Decodes : List UInt8 → List Char → Prop
  | nil : Decodes [] []
  | char (c : Char) {rest : List UInt8} {s : List Char} (decodes : Decodes rest s) :
      Decodes (String.utf8EncodeChar c ++ rest) (c :: s)
  | damage {bad rest : List UInt8} {s : List Char} (damage : Damage bad rest)
      (decodes : Decodes rest s) : Decodes (bad ++ rest) (replacementChar :: s)

theorem decodeFrom_encoding (c : Char) (rest : List UInt8) :
    Decoder.decodeFrom none (String.utf8EncodeChar c ++ rest) =
      c :: Decoder.decodeFrom none rest := by
  rw [Decoder.decodeFrom_append, Decoder.foldl_feed_of_reads (Decoder.reads_encoding c)]
  rfl

theorem Damage.decodeFrom {bad : List UInt8} (damage : Damage bad rest) :
    Decoder.decodeFrom none (bad ++ rest) = replacementChar :: Decoder.decodeFrom none rest := by
  by_cases begun : BeginsChar bad
  · obtain ⟨c, more, same⟩ := begun
    have partly : more ≠ [] := by
      rintro rfl
      rw [List.append_nil] at same
      exact damage.undecodable c (same ▸ List.prefix_append bad rest)
    obtain ⟨p, run, completes⟩ := Decoder.foldl_feed_of_reads_append
      (Decoder.reads_none_iff.2 same.symm) damage.nonempty partly
    rw [Decoder.decodeFrom_append, run]
    refine Decoder.decodeFrom_of_damaged fun b tail following continues => ?_
    -- Otherwise the damage would go on with this byte.
    obtain ⟨_, c', reads⟩ := Decoder.exists_reads_of_continues continues
    have encoding := Decoder.reads_none_iff.1 (completes _ _ reads)
    have longer := damage.longest (bad ++ [b]) ⟨tail, by simp [following]⟩
      ⟨c', _, by rw [encoding, List.append_assoc, List.singleton_append]⟩
    exact absurd longer (by simp)
  · obtain ⟨b, rfl⟩ := List.length_eq_one_iff.1 (damage.begun.resolve_left begun)
    obtain ⟨small, _⟩ | ⟨p, first, _⟩ | pushed := Decoder.start_cases .empty b
    · have encoding := utf8EncodeChar_eq_one_iff.2 ⟨small, toNat_ofNat_of_lt_128 small⟩
      exact absurd ⟨_, [], (List.append_nil _).trans encoding.symm⟩ begun
    · obtain ⟨tail, c, reads⟩ := first.exists_reads
      have encoding := Decoder.reads_none_iff.1 reads
      exact absurd ⟨c, tail, encoding.symm⟩ begun
    · rw [Decoder.decodeFrom_append]
      change (Decoder.start .empty b).decoded.reverse ++
        Decoder.decodeFrom (Decoder.start .empty b).pending rest = _
      rw [pushed]
      rfl

theorem Decodes.eq_decodeFrom {s : List Char} (h : Decodes bytes s) :
    Decoder.decodeFrom none bytes = s := by
  induction h with
  | nil => rfl
  | char c _ ih => rw [decodeFrom_encoding, ih]
  | damage damage _ ih => rw [damage.decodeFrom, ih]

/-- Bytes at which no character is encoded start with damage. -/
theorem exists_damage (undecodable : ∀ c, ¬ String.utf8EncodeChar c <+: bytes)
    (nonempty : bytes ≠ []) : ∃ bad rest, bad ++ rest = bytes ∧ Damage bad rest := by
  classical
  let begins (n : Nat) : Prop := BeginsChar (bytes.take n)
  let n := Nat.findGreatest begins bytes.length
  have begun : begins n := Nat.findGreatest_spec (Nat.zero_le _) ⟨'\x00', List.nil_prefix⟩
  have longest : ∀ more, more <+: bytes → BeginsChar more → more.length ≤ n := by
    intro more front h
    apply Nat.le_findGreatest front.length_le
    rwa [List.prefix_iff_eq_take.1 front] at h
  have size : n ≤ bytes.length := Nat.findGreatest_le _
  have some : 1 ≤ bytes.length := List.length_pos_iff.2 nonempty
  have length : (bytes.take (max n 1)).length = max n 1 := by
    rw [List.length_take]
    omega
  refine ⟨bytes.take (max n 1), bytes.drop (max n 1), List.take_append_drop _ _, ?_⟩
  constructor
  case undecodable => rwa [List.take_append_drop]
  case nonempty =>
    rw [← List.length_pos_iff, length]
    omega
  case begun =>
    by_cases zero : n = 0
    · right
      rw [length, zero]
      rfl
    · left
      rwa [Nat.max_eq_left (by omega)]
  case longest =>
    rw [List.take_append_drop, length]
    intro more front h
    exact Nat.le_trans (longest more front h) (Nat.le_max_left n 1)

theorem exists_decodes (bytes : List UInt8) : ∃ s, Decodes bytes s := by
  by_cases encoded : ∃ c, String.utf8EncodeChar c <+: bytes
  · obtain ⟨c, rest, same⟩ := encoded
    have shorter : rest.length < bytes.length := by
      rw [← same, List.length_append, String.length_utf8EncodeChar]
      exact Nat.lt_add_of_pos_left c.utf8Size_pos
    obtain ⟨s, decodes⟩ := exists_decodes rest
    exact ⟨c :: s, same ▸ .char c decodes⟩
  · by_cases empty : bytes = []
    · exact ⟨[], empty ▸ .nil⟩
    · obtain ⟨bad, rest, same, damage⟩ := exists_damage (not_exists.1 encoded) empty
      have shorter : rest.length < bytes.length := by
        rw [← same, List.length_append]
        exact Nat.lt_add_of_pos_left (List.length_pos_iff.2 damage.nonempty)
      obtain ⟨s, decodes⟩ := exists_decodes rest
      exact ⟨replacementChar :: s, same ▸ .damage damage decodes⟩
termination_by bytes.length

/-- The decoded text is the one for which the bytes stand. -/
theorem decode_eq_iff {s : String} : decode bytes = s ↔ Decodes bytes s.toList := by
  constructor
  · rintro rfl
    obtain ⟨s, decodes⟩ := exists_decodes bytes
    rw [toList_decode, decodes.eq_decodeFrom]
    exact decodes
  · intro decodes
    rw [← String.toList_inj, toList_decode, decodes.eq_decodeFrom]

end BitmapFont.Text
