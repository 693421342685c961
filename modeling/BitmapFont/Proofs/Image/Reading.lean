import BitmapFont.Image.Reader
import BitmapFont.Proofs.Image.Layout
import BitmapFont.Proofs.Outcome
import BitmapFont.Proofs.RowWidth
import BitmapFont.Proofs.Text.Cutting

/-!
# What the reader accepts

Each part of the reader takes exactly the bytes that the layout gives to what it finds, and leaves
the rest as it is. So a file is accepted if and only if it is the layout of a well-formed font.
-/

namespace BitmapFont.Image

open Text (takeWhile_dropWhile_ne_iff)

theorem require_eq_ok_iff {condition : Prop} [Decidable condition] {e : ReadError} {u : Unit} :
    require condition e = .ok u ↔ condition := by
  by_cases h : condition <;> simp [require, h]

theorem takeBytes_eq_ok_iff {count : Nat} {data bytes rest : List UInt8} :
    takeBytes count data = .ok (bytes, rest) ↔ bytes.length = count ∧ data = bytes ++ rest := by
  induction count generalizing data bytes rest with
  | zero =>
    simp only [takeBytes, Except.ok.injEq, Prod.mk.injEq, List.length_eq_zero_iff]
    constructor
    · rintro ⟨rfl, rfl⟩
      exact ⟨rfl, rfl⟩
    · rintro ⟨rfl, rfl⟩
      exact ⟨rfl, rfl⟩
  | succ count ih =>
    cases data with
    | nil =>
      simp only [takeBytes, reduceCtorEq, false_iff, not_and]
      intro length empty
      simp_all
    | cons b data =>
      simp only [takeBytes, bind_eq_ok_iff, pure_eq_ok_iff, Prod.exists, Prod.mk.injEq, ih]
      constructor
      · rintro ⟨bytes, rest, ⟨rfl, rfl⟩, rfl, rfl⟩
        exact ⟨rfl, rfl⟩
      · rintro ⟨length, same⟩
        cases bytes with
        | nil => simp at length
        | cons first bytes =>
          obtain ⟨rfl, rfl⟩ := List.cons_eq_cons.1 same
          exact ⟨bytes, rest, ⟨by simpa using length, rfl⟩, rfl, rfl⟩

theorem decodeNumber_lt (bytes : List UInt8) :
    decodeNumber bytes < Nat.pow 256 bytes.length := by
  induction bytes with
  | nil => decide
  | cons b rest ih =>
    have hb := b.toNat_lt
    change b.toNat + 256 * decodeNumber rest < Nat.pow 256 rest.length * 256
    omega

/-- The bytes of a row are those from which it is read. -/
theorem ofNat_decodeNumber_eq_iff {width : RowWidth} {bytes : List UInt8}
    (length : bytes.length = width.bytes) {row : UInt64} :
    UInt64.ofNat (decodeNumber bytes) = row ↔
      row.toNat ≤ width.maxValue ∧ bytes = rowBytes width row := by
  have bound : decodeNumber bytes ≤ width.maxValue :=
    RowWidth.lt_pow_bytes_iff.1 (length ▸ decodeNumber_lt bytes)
  have value : (UInt64.ofNat (decodeNumber bytes)).toNat = decodeNumber bytes := by
    rw [UInt64.toNat_ofNat', Nat.mod_eq_of_lt]
    exact Nat.lt_of_le_of_lt bound width.maxValue_lt_size
  constructor
  · rintro rfl
    rw [rowBytes, value, ← length, encodeNumber_decodeNumber]
    exact ⟨bound, rfl⟩
  · rintro ⟨fit, rfl⟩
    rw [rowBytes, decodeNumber_encodeNumber (RowWidth.lt_pow_bytes_iff.2 fit), UInt64.ofNat_toNat]

/-- Rows are read from the bytes that they are written to. -/
theorem readRows_eq_ok_iff {width : RowWidth} {count : Nat} {data rest : List UInt8}
    {rows : List UInt64} :
    readRows width count data = .ok (rows, rest) ↔
      rows.length = count ∧ (∀ row ∈ rows, row.toNat ≤ width.maxValue) ∧
        data = rows.flatMap (rowBytes width) ++ rest := by
  induction count generalizing data rows rest with
  | zero =>
    cases rows with
    | nil => simp [readRows]
    | cons row rows => simp [readRows]
  | succ count ih =>
    simp only [readRows, bind_eq_ok_iff, pure_eq_ok_iff, Prod.exists, Prod.mk.injEq,
      takeBytes_eq_ok_iff, ih]
    constructor
    · rintro ⟨bytes, _, ⟨length, rfl⟩, rows, _, ⟨rfl, fit, rfl⟩, rfl, rfl⟩
      obtain ⟨first, same⟩ := (ofNat_decodeNumber_eq_iff length).1 rfl
      refine ⟨rfl, List.forall_mem_cons.2 ⟨first, fit⟩, ?_⟩
      rw [List.flatMap_cons, ← same, List.append_assoc]
    · rintro ⟨length, fit, rfl⟩
      cases rows with
      | nil => simp at length
      | cons row rows =>
        obtain ⟨first, others⟩ := List.forall_mem_cons.1 fit
        have value := (ofNat_decodeNumber_eq_iff (length_rowBytes width row)).2 ⟨first, rfl⟩
        refine ⟨rowBytes width row, _, ⟨length_rowBytes width row, ?_⟩, rows, rest,
          ⟨by simpa using length, others, rfl⟩, by rw [value], rfl⟩
        rw [List.flatMap_cons, List.append_assoc]

/-- Glyphs are read from the bytes that they are written to, if their indices are distinct and
none was seen before. -/
theorem readGlyphs_eq_ok_iff {width : RowWidth} {height count : Nat} {seen data rest : List UInt8}
    {glyphs : List Glyph} :
    readGlyphs width height count seen data = .ok (glyphs, rest) ↔
      glyphs.length = count ∧
        (∀ g ∈ glyphs, g.rows.length = height ∧ ∀ row ∈ g.rows, row.toNat ≤ width.maxValue) ∧
          (glyphs.map (·.index)).Nodup ∧ (∀ g ∈ glyphs, g.index ∉ seen) ∧
            data = glyphs.flatMap (glyphBytes width) ++ rest := by
  induction count generalizing seen data glyphs rest with
  | zero =>
    cases glyphs with
    | nil => simp [readGlyphs]
    | cons g glyphs => simp [readGlyphs]
  | succ count ih =>
    cases data with
    | nil =>
      cases glyphs with
      | nil => simp [readGlyphs]
      | cons g glyphs => simp [readGlyphs, glyphBytes]
    | cons index data =>
      simp only [readGlyphs, bind_eq_ok_iff, pure_eq_ok_iff, Prod.exists, Prod.mk.injEq,
        readRows_eq_ok_iff, require_eq_ok_iff, ih]
      constructor
      · rintro ⟨_, unseen, rows, _, ⟨length, fit, rfl⟩, glyphs, _, ⟨rfl, shapes, nodup, fresh, rfl⟩,
          rfl, rfl⟩
        refine ⟨rfl, List.forall_mem_cons.2 ⟨⟨length, fit⟩, shapes⟩, ?_, ?_, ?_⟩
        · refine List.nodup_cons.2 ⟨?_, nodup⟩
          rintro again
          obtain ⟨g, hg, same⟩ := List.mem_map.1 again
          exact fresh g hg (same ▸ List.mem_cons_self)
        · refine List.forall_mem_cons.2 ⟨unseen, fun g hg old => fresh g hg ?_⟩
          exact List.mem_cons_of_mem _ old
        · simp [glyphBytes]
      · rintro ⟨length, shapes, nodup, fresh, same⟩
        cases glyphs with
        | nil => simp at length
        | cons g glyphs =>
          rw [List.flatMap_cons, glyphBytes, List.cons_append, List.cons_append,
            List.cons.injEq] at same
          obtain ⟨rfl, rfl⟩ := same
          obtain ⟨shape, shapes⟩ := List.forall_mem_cons.1 shapes
          obtain ⟨new, nodup⟩ := List.nodup_cons.1 nodup
          obtain ⟨unseen, fresh⟩ := List.forall_mem_cons.1 fresh
          have count : glyphs.length = count := by simpa using length
          refine ⟨(), unseen, g.rows, _, ⟨shape.1, shape.2, by rw [List.append_assoc]⟩, glyphs,
            rest, ⟨count, shapes, nodup, ?_, rfl⟩, rfl, rfl⟩
          -- The glyphs after this one avoid its index as well as those seen before.
          intro other hother old
          obtain same | old := List.mem_cons.1 old
          · exact new (List.mem_map.2 ⟨other, hother, same⟩)
          · exact fresh other hother old

/-- A name is the bytes before the first zero byte, if they are ASCII. -/
theorem name_eq_iff {body rest : List UInt8} {z : UInt8} {name : String} :
    (body.dropWhile (· != 0) = z :: rest ∧ (body.takeWhile (· != 0)).all (·.toNat < 128) ∧
        nameOfBytes (body.takeWhile (· != 0)) = name) ↔
      z = 0 ∧ Storable name ∧ body = bytesOfName name ++ 0 :: rest := by
  constructor
  · rintro ⟨tail, ascii, rfl⟩
    obtain ⟨rfl, nonzero, same⟩ := takeWhile_dropWhile_ne_iff.1 ⟨rfl, tail⟩
    have small : ∀ b ∈ body.takeWhile (· != 0), b.toNat < 128 := by simpa using ascii
    refine ⟨rfl, storable_nameOfBytes fun b hb => ⟨small b hb, ?_⟩, ?_⟩
    · rintro rfl
      exact nonzero hb
    · rwa [bytesOfName_nameOfBytes small]
  · rintro ⟨rfl, storable, rfl⟩
    have nonzero : 0 ∉ bytesOfName name := fun zero => (mem_bytesOfName storable zero).2 rfl
    obtain ⟨head, tail⟩ := takeWhile_dropWhile_ne_iff.2 ⟨rfl, nonzero, rfl⟩
    rw [head, tail, nameOfBytes_bytesOfName storable]
    refine ⟨rfl, ?_, rfl⟩
    exact List.all_eq_true.2 fun b hb => by simpa using (mem_bytesOfName storable hb).1

/-- A byte stands for the width whose number of pixels it is. -/
theorem ofBits?_toNat_eq_some_iff {bits : UInt8} {width : RowWidth} :
    RowWidth.ofBits? bits.toNat = some width ↔ bits = UInt8.ofNat width.bits := by
  rw [RowWidth.ofBits?_eq_some_iff]
  have value : (UInt8.ofNat width.bits).toNat = width.bits := by cases width <;> rfl
  rw [← UInt8.toNat_inj, value, eq_comm]

/-- A header is read from the bytes that it is written to, if its tag is registered and its name
is storable. -/
theorem readHeader_eq_ok_iff {data rest : List UInt8} {h : Header} :
    readHeader data = .ok (h, rest) ↔
      (Charset.ofTag? h.charsetTag).isSome ∧ Storable h.name ∧ data = headerBytes h ++ rest := by
  constructor
  · intro accepted
    unfold readHeader at accepted
    split at accepted
    case h_2 => exact nomatch accepted
    case h_1 m₀ m₁ version tag bits height count red green blue body =>
      simp only [bind_eq_ok_iff, require_eq_ok_iff] at accepted
      obtain ⟨_, _, _, magic, _, rfl, _, known, accepted⟩ := accepted
      split at accepted
      case h_2 => exact nomatch accepted
      case h_1 width hwidth =>
        split at accepted
        case h_2 => exact nomatch accepted
        case h_1 z after tail =>
          simp only [bind_eq_ok_iff, require_eq_ok_iff, pure_eq_ok_iff, Prod.mk.injEq] at accepted
          obtain ⟨_, ascii, rfl, rfl⟩ := accepted
          obtain ⟨_, storable, same⟩ := name_eq_iff.1 ⟨tail, ascii, rfl⟩
          obtain rfl := ofBits?_toNat_eq_some_iff.1 hwidth
          refine ⟨known, storable, ?_⟩
          rw [headerBytes, ← magic]
          simpa [bytesOfName, nameOfBytes] using same
  · rintro ⟨known, storable, rfl⟩
    obtain ⟨tail, ascii, name⟩ := (@name_eq_iff _ rest _ h.name).2 ⟨rfl, storable, rfl⟩
    have nonempty : bytesOfName h.name ++ 0 :: rest ≠ [] := by simp
    have width := ofBits?_toNat_eq_some_iff.2 (rfl : UInt8.ofNat h.width.bits = _)
    have bytes : headerBytes h ++ rest = 0xBF :: 0xFF :: Header.version :: h.charsetTag
        :: UInt8.ofNat h.width.bits :: h.height :: h.glyphCount :: h.color.red :: h.color.green
        :: h.color.blue :: (bytesOfName h.name ++ 0 :: rest) := by
      simp [headerBytes, Header.magic, bytesOfName]
    rw [bytes]
    unfold readHeader
    simp only [bind_eq_ok_iff, require_eq_ok_iff, width, tail, pure_eq_ok_iff]
    refine ⟨(), nonempty, (), rfl, (), trivial, (), known, (), ascii, ?_⟩
    rw [nameOfBytes] at name
    rw [name]

theorem isSome_ofTag? {tag : UInt8} :
    (Charset.ofTag? tag).isSome ↔ ∃ charset ∈ Charset.all, charset.tag = tag := by
  simp [Charset.ofTag?]

/-- A well-formed font takes one header and as many records as it counts glyphs. -/
theorem length_fontBytes {f : Font} (name : Storable f.header.name)
    (height : ∀ g ∈ f.glyphs, g.rows.length = f.header.height.toNat) :
    (fontBytes f).length =
      f.header.encodedLength + f.glyphs.length * f.header.recordLength := by
  rw [fontBytes, List.length_append, length_headerBytes name, length_flatMap_glyphBytes _ height,
    Header.recordLength]

/-- A file is accepted if it is the layout of a well-formed font. -/
theorem read_eq_ok_iff {data : List UInt8} {f : Font} :
    read data = .ok f ↔ f.WellFormed ∧ data = fontBytes f := by
  simp only [read, bind_eq_ok_iff, pure_eq_ok_iff, Prod.exists, readHeader_eq_ok_iff,
    require_eq_ok_iff, readGlyphs_eq_ok_iff]
  constructor
  · rintro ⟨header, rest, ⟨known, name, rfl⟩, _, length, glyphs, after,
      ⟨count, shapes, distinct, _, rfl⟩, rfl⟩
    have total := @length_fontBytes ⟨header, glyphs⟩ name fun g hg => (shapes g hg).1
    rw [← count, ← List.append_assoc, List.length_append] at length
    -- The length of the data leaves nothing after the last glyph.
    have empty : after = [] := by
      rw [← List.length_eq_zero_iff]
      simp only [fontBytes] at total
      omega
    subst empty
    refine ⟨⟨isSome_ofTag?.1 known, name, count.symm, fun g hg => (shapes g hg).1,
      fun g hg => (shapes g hg).2, distinct⟩, ?_⟩
    rw [fontBytes, List.append_nil]
  · rintro ⟨formed, rfl⟩
    have shapes : ∀ g ∈ f.glyphs, g.rows.length = f.header.height.toNat ∧
        ∀ row ∈ g.rows, row.toNat ≤ f.header.width.maxValue :=
      fun g hg => ⟨formed.height g hg, formed.width g hg⟩
    refine ⟨f.header, _, ⟨isSome_ofTag?.2 formed.charset, formed.name, rfl⟩, (), ?_, f.glyphs, [],
      ⟨formed.count.symm, shapes, formed.distinct, ?_, ?_⟩, rfl⟩
    · rw [formed.count]
      exact length_fontBytes formed.name formed.height
    · simp
    · simp

end BitmapFont.Image
