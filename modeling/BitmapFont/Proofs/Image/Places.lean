import BitmapFont.Proofs.Image.RepeatedIndices

/-!
# Where glyphs are in a file

The header of a font file tells where each glyph and each row begins. If the length of the file is
the one that the header tells, then the bytes after the header are glyphs of the right shape, and a
reader finds each of them in its place and comes to the end of the file with the last one.

## Main definitions

- `Header.glyphPlace`, `Header.rowPlace` — where a glyph begins, where one of its rows begins
- `Image.BeginsWith` — a file begins with a header
- `Image.ReadsWithin` — no read goes beyond the end of a file
-/

namespace BitmapFont

namespace Header

/-- The place of a glyph in a font file. Glyphs count from zero. -/
def glyphPlace (h : Header) (i : Nat) : Nat :=
  h.encodedLength + i * h.recordLength

/-- The place of a row of a glyph in a font file. Rows count from zero. -/
def rowPlace (h : Header) (i j : Nat) : Nat :=
  h.glyphPlace i + 1 + j * h.width.bytes

theorem glyphPlace_mono (h : Header) {i k : Nat} (hik : i ≤ k) :
    h.glyphPlace i ≤ h.glyphPlace k :=
  Nat.add_le_add_left (Nat.mul_le_mul_right _ hik) _

theorem glyphPlace_succ (h : Header) (i : Nat) :
    h.glyphPlace (i + 1) = h.glyphPlace i + h.recordLength := by
  rw [glyphPlace, glyphPlace, Nat.add_mul, Nat.one_mul, Nat.add_assoc]

theorem rowPlace_succ (h : Header) (i j : Nat) :
    h.rowPlace i (j + 1) = h.rowPlace i j + h.width.bytes := by
  rw [rowPlace, rowPlace, Nat.add_mul, Nat.one_mul, ← Nat.add_assoc]

/-- The next glyph begins after the last row. -/
theorem rowPlace_height (h : Header) (i : Nat) :
    h.rowPlace i h.height.toNat = h.glyphPlace (i + 1) := by
  rw [glyphPlace_succ, rowPlace, recordLength, Nat.add_assoc]

theorem rowPlace_le_glyphPlace (h : Header) {i j : Nat} (hj : j ≤ h.height.toNat) :
    h.rowPlace i j ≤ h.glyphPlace (i + 1) := by
  rw [← rowPlace_height]
  exact Nat.add_le_add_left (Nat.mul_le_mul_right _ hj) _

end Header

namespace Image

/-- Whether a file begins with the bytes of a header that a reader knows. -/
structure BeginsWith (data : List UInt8) (h : Header) : Prop where
  charset : ∃ charset ∈ Charset.all, charset.tag = h.charsetTag
  name : Storable h.name
  bytes : headerBytes h <+: data

/-- Whether a file has all that is read after its header. Each index byte and each row is in the
file, and the file ends with the last glyph. These are the places at which the reader is: after the
header, after each glyph unless an index came again, and after each row of a glyph. -/
structure ReadsWithin (data : List UInt8) (h : Header) : Prop where
  index : ∀ i < h.glyphCount.toNat, h.glyphPlace i < data.length
  row : ∀ i < h.glyphCount.toNat, ∀ j < h.height.toNat,
    h.rowPlace i j + h.width.bytes ≤ data.length
  ends : h.glyphPlace h.glyphCount.toNat = data.length
  afterHeader : readHeader data = .ok (h, data.drop (h.glyphPlace 0))
  afterGlyphs : ∀ n ≤ h.glyphCount.toNat,
    (∃ glyphs, readGlyphs h.width h.height.toNat n [] (data.drop (h.glyphPlace 0)) =
      .ok (glyphs, data.drop (h.glyphPlace n))) ∨
    ∃ index, readGlyphs h.width h.height.toNat n [] (data.drop (h.glyphPlace 0)) =
      .error (.duplicateIndex index)
  afterRows : ∀ i < h.glyphCount.toNat, ∀ n ≤ h.height.toNat,
    ∃ rows, readRows h.width n (data.drop (h.rowPlace i 0)) =
      .ok (rows, data.drop (h.rowPlace i n))

variable {data rest : List UInt8} {h : Header} {f : Font} {width : RowWidth} {height count : Nat}

/-- A header is read from every file that begins with it. -/
theorem beginsWith_iff : BeginsWith data h ↔ ∃ rest, readHeader data = .ok (h, rest) := by
  constructor
  · rintro ⟨charset, name, rest, rfl⟩
    exact ⟨rest, readHeader_eq_ok_iff.2 ⟨isSome_ofTag?.2 charset, name, rfl⟩⟩
  · rintro ⟨rest, accepted⟩
    obtain ⟨charset, name, rfl⟩ := readHeader_eq_ok_iff.1 accepted
    exact ⟨isSome_ofTag?.1 charset, name, List.prefix_append _ _⟩

/-- A file begins with one header at most. -/
theorem BeginsWith.unique {h' : Header} (begins : BeginsWith data h)
    (begins' : BeginsWith data h') : h' = h := by
  obtain ⟨_, accepted⟩ := beginsWith_iff.1 begins
  obtain ⟨_, accepted'⟩ := beginsWith_iff.1 begins'
  exact (Prod.mk.inj (Except.ok.inj (accepted'.symm.trans accepted))).1

/-! ### Bytes as rows and glyphs -/

/-- Bytes in the right number are the layout of rows. -/
theorem exists_rows_of_length (length : data.length = count * width.bytes) :
    ∃ rows : List UInt64, rows.length = count ∧ (∀ row ∈ rows, row.toNat ≤ width.maxValue) ∧
      data = rows.flatMap (rowBytes width) := by
  induction count generalizing data with
  | zero =>
    rw [Nat.zero_mul, List.length_eq_zero_iff] at length
    exact ⟨[], rfl, List.forall_mem_nil _, length⟩
  | succ count ih =>
    rw [Nat.add_mul, Nat.one_mul] at length
    have first : (data.take width.bytes).length = width.bytes := by
      rw [List.length_take]
      omega
    have others : (data.drop width.bytes).length = count * width.bytes := by
      rw [List.length_drop]
      omega
    obtain ⟨fit, bytes⟩ := (ofNat_decodeNumber_eq_iff first).1 rfl
    obtain ⟨rows, number, fits, same⟩ := ih others
    refine ⟨_ :: rows, congrArg (· + 1) number, List.forall_mem_cons.2 ⟨fit, fits⟩, ?_⟩
    rw [List.flatMap_cons, ← bytes, ← same, List.take_append_drop]

/-- Bytes in the right number are the layout of glyphs. -/
theorem exists_glyphs_of_length (length : data.length = count * (1 + height * width.bytes)) :
    ∃ glyphs : List Glyph, glyphs.length = count ∧
      (∀ g ∈ glyphs, g.rows.length = height ∧ ∀ row ∈ g.rows, row.toNat ≤ width.maxValue) ∧
        data = glyphs.flatMap (glyphBytes width) := by
  induction count generalizing data with
  | zero =>
    rw [Nat.zero_mul, List.length_eq_zero_iff] at length
    exact ⟨[], rfl, List.forall_mem_nil _, length⟩
  | succ count ih =>
    rw [Nat.add_mul, Nat.one_mul] at length
    cases data with
    | nil =>
      rw [List.length_nil] at length
      omega
    | cons index data =>
      rw [List.length_cons] at length
      have first : (data.take (height * width.bytes)).length = height * width.bytes := by
        rw [List.length_take]
        omega
      have others : (data.drop (height * width.bytes)).length =
          count * (1 + height * width.bytes) := by
        rw [List.length_drop]
        omega
      obtain ⟨rows, rowCount, fit, bytes⟩ := exists_rows_of_length first
      obtain ⟨glyphs, number, shapes, same⟩ := ih others
      refine ⟨⟨index, rows⟩ :: glyphs, congrArg (· + 1) number,
        List.forall_mem_cons.2 ⟨⟨rowCount, fit⟩, shapes⟩, ?_⟩
      rw [List.flatMap_cons, glyphBytes, List.cons_append, ← bytes, ← same, List.take_append_drop]

/-- A file of the length that its header tells is the layout of a font of the right shape. -/
theorem BeginsWith.exists_font (begins : BeginsWith data h)
    (length : data.length = h.encodedLength + h.glyphCount.toNat * h.recordLength) :
    ∃ f : Font, f.header = h ∧ f.WellShaped ∧ data = fontBytes f := by
  obtain ⟨charset, name, rest, rfl⟩ := begins
  rw [List.length_append, length_headerBytes name, Nat.add_left_cancel_iff] at length
  obtain ⟨glyphs, number, shapes, rfl⟩ := exists_glyphs_of_length length
  refine ⟨⟨h, glyphs⟩, rfl, ⟨charset, name, number.symm, ?_, ?_⟩, rfl⟩
  · exact fun g hg => (shapes g hg).1
  · exact fun g hg => (shapes g hg).2

/-! ### The layout from a place on -/

theorem drop_fontBytes (shaped : f.WellShaped) {i : Nat} (hi : i ≤ f.glyphs.length) :
    (fontBytes f).drop (f.header.glyphPlace i) =
      (f.glyphs.drop i).flatMap (glyphBytes f.header.width) := by
  let before := headerBytes f.header ++ (f.glyphs.take i).flatMap (glyphBytes f.header.width)
  have split : fontBytes f = before ++ (f.glyphs.drop i).flatMap (glyphBytes f.header.width) := by
    rw [List.append_assoc, ← List.flatMap_append, List.take_append_drop, fontBytes]
  have length : before.length = f.header.glyphPlace i := by
    have shapes := length_flatMap_glyphBytes f.header.width
      fun g (hg : g ∈ f.glyphs.take i) => shaped.height g (List.mem_of_mem_take hg)
    rw [List.length_append, length_headerBytes shaped.name, shapes, List.length_take,
      Nat.min_eq_left hi, Header.glyphPlace, Header.recordLength]
  rw [split, ← length, List.drop_left]

/-- The byte in the place of a glyph is its index. -/
theorem getElem?_glyphPlace (shaped : f.WellShaped) {i : Nat} (hi : i < f.glyphs.length) :
    (fontBytes f)[f.header.glyphPlace i]? = some f.glyphs[i].index := by
  have start := drop_fontBytes shaped (Nat.le_of_lt hi)
  rw [← Nat.add_zero (f.header.glyphPlace i), ← List.getElem?_drop, start,
    List.drop_eq_getElem_cons hi, List.flatMap_cons, glyphBytes]
  rfl

theorem drop_rowPlace (shaped : f.WellShaped) {i j : Nat} (hi : i < f.glyphs.length)
    (hj : j ≤ f.header.height.toNat) :
    (fontBytes f).drop (f.header.rowPlace i j) =
      (f.glyphs[i].rows.drop j).flatMap (rowBytes f.header.width) ++
        (f.glyphs.drop (i + 1)).flatMap (glyphBytes f.header.width) := by
  let g := f.glyphs[i]
  have height : g.rows.length = f.header.height.toNat :=
    shaped.height g (List.getElem_mem hi)
  let before := g.index :: (g.rows.take j).flatMap (rowBytes f.header.width)
  have length : before.length = 1 + j * f.header.width.bytes := by
    rw [List.length_cons, length_flatMap_rowBytes, List.length_take, height, Nat.min_eq_left hj,
      Nat.add_comm]
  have split : glyphBytes f.header.width g =
      before ++ (g.rows.drop j).flatMap (rowBytes f.header.width) := by
    rw [List.cons_append, ← List.flatMap_append, List.take_append_drop, glyphBytes]
  rw [Header.rowPlace, Nat.add_assoc, ← List.drop_drop, drop_fontBytes shaped (Nat.le_of_lt hi),
    List.drop_eq_getElem_cons hi, List.flatMap_cons, split, List.append_assoc, ← length,
    List.drop_left]

/-! ### The loops of the reader -/

/-- The header is read up to the place of the first glyph. -/
theorem readHeader_fontBytes (shaped : f.WellShaped) :
    readHeader (fontBytes f) = .ok (f.header, (fontBytes f).drop (f.header.glyphPlace 0)) := by
  rw [drop_fontBytes shaped (Nat.zero_le _), List.drop_zero]
  exact readHeader_eq_ok_iff.2 ⟨isSome_ofTag?.2 shaped.charset, shaped.name, rfl⟩

/-- The loop over the glyphs is at the place of the next glyph, unless an index came again. -/
theorem readGlyphs_fontBytes (shaped : f.WellShaped) {n : Nat}
    (hn : n ≤ f.header.glyphCount.toNat) :
    let outcome := readGlyphs f.header.width f.header.height.toNat n []
      ((fontBytes f).drop (f.header.glyphPlace 0))
    (∃ glyphs, outcome = .ok (glyphs, (fontBytes f).drop (f.header.glyphPlace n))) ∨
      ∃ index, outcome = .error (.duplicateIndex index) := by
  intro outcome
  have bound : n ≤ f.glyphs.length := shaped.count ▸ hn
  have number : (f.glyphs.take n).length = n := by rw [List.length_take, Nat.min_eq_left bound]
  have shapes : ∀ g ∈ f.glyphs, g.rows.length = f.header.height.toNat ∧
      ∀ row ∈ g.rows, row.toNat ≤ f.header.width.maxValue :=
    fun g hg => ⟨shaped.height g hg, shaped.width g hg⟩
  have bytes : (fontBytes f).drop (f.header.glyphPlace 0) =
      (f.glyphs.take n).flatMap (glyphBytes f.header.width) ++
        (fontBytes f).drop (f.header.glyphPlace n) := by
    rw [drop_fontBytes shaped (Nat.zero_le _), drop_fontBytes shaped bound, ← List.flatMap_append,
      List.take_append_drop, List.drop_zero]
  by_cases distinct : ((f.glyphs.take n).map (·.index)).Nodup
  · refine Or.inl ⟨f.glyphs.take n, readGlyphs_eq_ok_iff.2 ⟨number, ?_, distinct, ?_, bytes⟩⟩
    · exact fun g hg => shapes g (List.mem_of_mem_take hg)
    · exact fun _ _ => List.not_mem_nil
  · obtain ⟨before, g, after, split, first, again⟩ := exists_first_repeated distinct
    have among : ∀ b ∈ before, b ∈ f.glyphs := by
      intro b hb
      refine List.mem_of_mem_take (i := n) ?_
      rw [split]
      exact List.mem_append_left _ hb
    have counted : before.length < n := by
      rw [← number, split, List.length_append, List.length_cons]
      omega
    refine Or.inr ⟨g.index, ?_⟩
    simp only [outcome, bytes, split, List.flatMap_append, List.flatMap_cons, glyphBytes,
      List.append_assoc, List.cons_append]
    exact readGlyphs_of_repeated (fun b hb => shapes b (among b hb)) first
      (fun _ _ => List.not_mem_nil) (Or.inl again) counted

/-- The loop over the rows of a glyph is at the place of the next row. -/
theorem readRows_fontBytes (shaped : f.WellShaped) {i n : Nat}
    (hi : i < f.header.glyphCount.toNat) (hn : n ≤ f.header.height.toNat) :
    ∃ rows, readRows f.header.width n ((fontBytes f).drop (f.header.rowPlace i 0)) =
      .ok (rows, (fontBytes f).drop (f.header.rowPlace i n)) := by
  have hi : i < f.glyphs.length := shaped.count ▸ hi
  have height := shaped.height _ (List.getElem_mem hi)
  refine ⟨f.glyphs[i].rows.take n, readRows_eq_ok_iff.2 ⟨?_, fun row hrow => ?_, ?_⟩⟩
  · rw [List.length_take, height, Nat.min_eq_left hn]
  · exact shaped.width _ (List.getElem_mem hi) row (List.mem_of_mem_take hrow)
  · rw [drop_rowPlace shaped hi (Nat.zero_le _), drop_rowPlace shaped hi hn, ← List.append_assoc,
      ← List.flatMap_append, List.take_append_drop, List.drop_zero]

/-- If a file has the length that its header tells, all reads are within it. -/
theorem BeginsWith.readsWithin (begins : BeginsWith data h)
    (length : data.length = h.encodedLength + h.glyphCount.toNat * h.recordLength) :
    ReadsWithin data h := by
  have ends : h.glyphPlace h.glyphCount.toNat = data.length := length.symm
  have next {i : Nat} (hi : i < h.glyphCount.toNat) : h.glyphPlace (i + 1) ≤ data.length :=
    ends ▸ h.glyphPlace_mono hi
  obtain ⟨f, rfl, shaped, rfl⟩ := begins.exists_font length
  refine ⟨fun i hi => ?_, fun i hi j hj => ?_, ends, readHeader_fontBytes shaped,
    fun n => readGlyphs_fontBytes shaped, fun i hi n => readRows_fontBytes shaped hi⟩
  · have further : f.header.glyphPlace i < f.header.glyphPlace (i + 1) := by
      rw [Header.glyphPlace_succ, Header.recordLength]
      omega
    exact Nat.lt_of_lt_of_le further (next hi)
  · rw [← Header.rowPlace_succ]
    exact Nat.le_trans (f.header.rowPlace_le_glyphPlace hj) (next hi)

end Image

end BitmapFont
