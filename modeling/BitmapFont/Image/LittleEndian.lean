/-!
# Little-endian numbers

Numbers of a fixed count of bytes, the least significant byte first.
-/

namespace BitmapFont.Image

/-- The last `count` base-256 digits of a number, least significant first. -/
def encodeNumber : Nat → Nat → List UInt8
  | 0, _ => []
  | count + 1, n => UInt8.ofNat n :: encodeNumber count (n / 256)

/-- The number with the given base-256 digits, least significant first. -/
def decodeNumber (bytes : List UInt8) : Nat :=
  bytes.foldr (fun b n => b.toNat + 256 * n) 0

@[simp] theorem length_encodeNumber (count n : Nat) : (encodeNumber count n).length = count := by
  induction count generalizing n with
  | zero => rfl
  | succ count ih => simp [encodeNumber, ih]

/-- Decoding gives back a number that fits in the bytes it was written to. -/
theorem decodeNumber_encodeNumber {count n : Nat} (h : n < Nat.pow 256 count) :
    decodeNumber (encodeNumber count n) = n := by
  induction count generalizing n with
  | zero =>
    have zero : n = 0 := Nat.lt_one_iff.1 h
    subst zero
    rfl
  | succ count ih =>
    have step := ih (n := n / 256) (Nat.div_lt_of_lt_mul (by rwa [Nat.mul_comm]))
    simp only [decodeNumber] at step
    simp only [encodeNumber, decodeNumber, List.foldr_cons, step, UInt8.toNat_ofNat']
    omega

/-- Encoding gives back the bytes that a number was read from. -/
theorem encodeNumber_decodeNumber (bytes : List UInt8) :
    encodeNumber bytes.length (decodeNumber bytes) = bytes := by
  induction bytes with
  | nil => rfl
  | cons b r ih =>
    have hb := b.toNat_lt
    have hq : (b.toNat + 256 * decodeNumber r) / 256 = decodeNumber r := by omega
    have hr : UInt8.ofNat (b.toNat + 256 * decodeNumber r) = b := by
      rw [← UInt8.toNat_inj, UInt8.toNat_ofNat']
      omega
    change UInt8.ofNat (b.toNat + 256 * decodeNumber r)
      :: encodeNumber r.length ((b.toNat + 256 * decodeNumber r) / 256) = b :: r
    rw [hq, hr, ih]

end BitmapFont.Image
