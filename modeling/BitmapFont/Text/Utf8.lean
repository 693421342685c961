/-!
# UTF-8

Characters are encoded by one to four bytes. Bytes are decoded one at a time, and bytes that encode
no character are not refused: each longest run of bytes that begins an encoding but does not
complete it becomes one replacement character, and so does each byte that cannot begin one.
Decoding starts afresh with the byte after such a run, so damage never reaches past the next byte
below `0x80`.

## Main definitions

- `utf8Length` — the number of bytes that encode a text
- `Decoder.feed` — the decoder after one more byte
- `decode` — the text that bytes stand for
- `decodeFile` — the same for a file, without the byte order mark at its start
-/

namespace BitmapFont.Text

/-- The number of bytes that encode a text. -/
def utf8Length (s : String) : Nat :=
  s.toList.foldr (fun c n => c.utf8Size + n) 0

/-- The start of a character's encoding: the bits read so far, the number of bytes still to come,
and the least and greatest value that the next of them may have. No byte below `0x80` continues an
encoding. -/
structure Partial where
  bits : Nat
  missing : Nat
  low : Nat
  high : Nat
  le_low : 0x80 ≤ low

/-- Decoded characters, the latest first, and the character that has begun but is not complete. -/
structure Decoder where
  decoded : List Char
  pending : Option Partial

/-- The character that stands for bytes without a meaning. -/
def replacementChar : Char := '\uFFFD'

namespace Decoder

/-- The decoder before the first byte. -/
def empty : Decoder := ⟨[], none⟩

/-- The decoder with one more character. -/
def push (d : Decoder) (c : Char) : Decoder := ⟨c :: d.decoded, none⟩

/-- The decoder after a byte at the start of a character. The bounds on a second byte leave out
encodings that are longer than needed, surrogates and numbers above the last code point. -/
def start (d : Decoder) (b : UInt8) : Decoder :=
  let n := b.toNat
  if n < 0x80 then d.push (Char.ofNat n)
  else if n < 0xC2 then d.push replacementChar
  else if n < 0xE0 then { d with pending := some ⟨n - 0xC0, 1, 0x80, 0xBF, Nat.le_refl _⟩ }
  else if n < 0xF0 then
    { d with pending := some ⟨n - 0xE0, 2, if n = 0xE0 then 0xA0 else 0x80,
        if n = 0xED then 0x9F else 0xBF, by split <;> decide⟩ }
  else if n < 0xF5 then
    { d with pending := some ⟨n - 0xF0, 3, if n = 0xF0 then 0x90 else 0x80,
        if n = 0xF4 then 0x8F else 0xBF, by split <;> decide⟩ }
  else d.push replacementChar

/-- The decoder after one more byte. -/
def feed (d : Decoder) (b : UInt8) : Decoder :=
  match d.pending with
  | none => d.start b
  | some p =>
    if p.low ≤ b.toNat ∧ b.toNat ≤ p.high then
      let bits := p.bits * 64 + (b.toNat - 0x80)
      if p.missing ≤ 1 then d.push (Char.ofNat bits)
      else { d with pending := some ⟨bits, p.missing - 1, 0x80, 0xBF, Nat.le_refl _⟩ }
    else (d.push replacementChar).start b

/-- The decoded characters in order, after the last byte. -/
def finish (d : Decoder) : List Char :=
  match d.pending with
  | none => d.decoded.reverse
  | some _ => (d.push replacementChar).decoded.reverse

end Decoder

/-- The text that bytes stand for. -/
def decode (bytes : List UInt8) : String :=
  String.ofList (bytes.foldl Decoder.feed Decoder.empty).finish

/-- A text without the byte order mark at its start. Of several marks only the first is dropped. -/
def dropMark (s : String) : String :=
  match s.toList with
  | '\uFEFF' :: rest => String.ofList rest
  | _ => s

/-- The text of a file. -/
def decodeFile (bytes : List UInt8) : String :=
  dropMark (decode bytes)

end BitmapFont.Text
