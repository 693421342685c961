import BitmapFont.Proofs.Image.Reading
import BitmapFont.Proofs.Image.Writing

/-!
# What writers add

Whatever a writer is told, it only adds bytes at the end. A header is added as a whole or not at
all. Of a glyph that is refused, the index and the rows before the first one that is too wide are
added, so that the writer holds them after the error. A row takes as many bytes as its width tells,
and the bytes tell the row.

## Main definitions

- `Image.Writer.Call`, `Image.Writer.call` — what a writer may be told
- `Image.Writer.callAll` — the writer after several calls
- `Image.Writer.Call.added` — the bytes that a call adds
-/

namespace BitmapFont.Image.Writer

/-- What a writer may be told. -/
inductive Call
  | header (h : Header)
  | glyph (width : RowWidth) (index : UInt8) (rows : List UInt64)
  | append (other : Writer)

/-- The result of a call, and the writer after it. -/
def call (w : Writer) : Call → Except WriteError Unit × Writer
  | .header h => w.writeHeader h
  | .glyph width index rows => w.writeGlyph width index rows
  | .append other => (.ok (), w.append other)

/-- The writer after several calls, whatever their results are. -/
def callAll (w : Writer) (calls : List Call) : Writer :=
  calls.foldl (fun v c => (v.call c).2) w

/-- The bytes that a call adds. They do not depend on what the writer holds. -/
def Call.added : Call → List UInt8
  | header h => if Storable h.name then headerBytes h else []
  | glyph width index rows => index :: (rows.takeWhile width.holds).flatMap (rowBytes width)
  | append other => other.data

variable {w : Writer} {h : Header} {width : RowWidth} {index : UInt8}
  {rows before rest : List UInt64} {row : UInt64}

/-! ### Headers -/

theorem result_writeHeader_eq_ok_iff : (w.writeHeader h).1 = .ok () ↔ Storable h.name := by
  constructor
  · intro written
    exact (writeHeader_eq_ok_iff.1 (after_eq_ok_iff.2 ⟨written, rfl⟩)).1
  · intro name
    exact (after_eq_ok_iff.1 (writeHeader_eq_ok_iff.2 ⟨name, rfl⟩)).1

theorem data_writeHeader (name : Storable h.name) :
    (w.writeHeader h).2.data = w.data ++ headerBytes h :=
  congrArg data (after_eq_ok_iff.1 (writeHeader_eq_ok_iff.2 ⟨name, rfl⟩)).2

/-- A header that is refused leaves the writer as it was. -/
theorem writeHeader_of_not_storable (refused : ¬ Storable h.name) : (w.writeHeader h).2 = w := by
  have noSuccess : (w.writeHeader h).1 ≠ .ok () := mt result_writeHeader_eq_ok_iff.1 refused
  unfold writeHeader at noSuccess ⊢
  split
  case isTrue ascii =>
    rw [if_pos ascii] at noSuccess
    split
    case isTrue => rfl
    case isFalse noNul =>
      rw [if_neg noNul] at noSuccess
      exact absurd rfl noSuccess
  case isFalse => rfl

/-! ### Glyphs -/

theorem result_writeGlyph_eq_ok_iff :
    (w.writeGlyph width index rows).1 = .ok () ↔ ∀ row ∈ rows, row.toNat ≤ width.maxValue := by
  constructor
  · intro written
    exact (writeGlyph_eq_ok_iff.1 (after_eq_ok_iff.2 ⟨written, rfl⟩)).1
  · intro fit
    exact (after_eq_ok_iff.1 (writeGlyph_eq_ok_iff.2 ⟨fit, rfl⟩)).1

/-- Rows that are not too wide are written whatever comes after them. -/
theorem data_writeGlyph (fit : ∀ row ∈ before, row.toNat ≤ width.maxValue) :
    (w.writeGlyph width index (before ++ rest)).2.data =
      w.data ++ index :: (before.flatMap (rowBytes width) ++
        (rest.takeWhile width.holds).flatMap (rowBytes width)) := by
  have holds : ∀ row ∈ before, width.holds row = true :=
    fun row hrow => RowWidth.holds_iff.2 (fit row hrow)
  rw [writeGlyph, List.takeWhile_append_of_pos holds, List.flatMap_append]

/-- If a row is too wide, nothing is written from it on. -/
theorem data_writeGlyph_of_wide (fit : ∀ row ∈ before, row.toNat ≤ width.maxValue)
    (wide : width.maxValue < row.toNat) :
    (w.writeGlyph width index (before ++ row :: rest)).2.data =
      w.data ++ index :: before.flatMap (rowBytes width) := by
  have stops : (row :: rest).takeWhile width.holds = [] :=
    List.takeWhile_cons_of_neg (mt RowWidth.holds_iff.1 (Nat.not_le.2 wide))
  rw [data_writeGlyph fit, stops, List.flatMap_nil, List.append_nil]

/-- The bytes of a glyph that is written as a whole. -/
theorem data_writeGlyph_of_fit (fit : ∀ row ∈ rows, row.toNat ≤ width.maxValue) :
    (w.writeGlyph width index rows).2.data = w.data ++ glyphBytes width ⟨index, rows⟩ :=
  congrArg data (after_eq_ok_iff.1 (writeGlyph_eq_ok_iff.2 ⟨fit, rfl⟩)).2

/-- The bytes in the place of a row tell the row. -/
theorem decodeNumber_written (fit : ∀ b ∈ before, b.toNat ≤ width.maxValue)
    (fits : row.toNat ≤ width.maxValue) :
    let written := (w.writeGlyph width index (before ++ row :: rest)).2.data
    let place := w.data.length + 1 + before.length * width.bytes
    decodeNumber ((written.drop place).take width.bytes) = row.toNat := by
  intro written place
  have both : ∀ b ∈ before ++ [row], b.toNat ≤ width.maxValue := by
    intro b hb
    obtain earlier | last := List.mem_append.1 hb
    · exact fit b earlier
    · rwa [List.mem_singleton.1 last]
  let start := w.data ++ index :: before.flatMap (rowBytes width)
  have length : start.length = place := by
    rw [List.length_append, List.length_cons, length_flatMap_rowBytes, Nat.add_comm _ 1,
      ← Nat.add_assoc]
  have bytes : written =
      start ++ (rowBytes width row ++ (rest.takeWhile width.holds).flatMap (rowBytes width)) := by
    change (w.writeGlyph width index (before ++ row :: rest)).2.data = _
    rw [List.append_cons, data_writeGlyph both]
    simp [start]
  rw [bytes, ← length, List.drop_left, ← length_rowBytes width row, List.take_left]
  exact decodeNumber_encodeNumber (RowWidth.lt_pow_bytes_iff.2 fits)

/-! ### Sequences of calls -/

theorem data_call (w : Writer) (c : Call) : (w.call c).2.data = w.data ++ c.added := by
  cases c with
  | header h =>
    by_cases name : Storable h.name
    · rw [call, Call.added, if_pos name, data_writeHeader name]
    · rw [call, Call.added, if_neg name, writeHeader_of_not_storable name, List.append_nil]
  | glyph width index rows => rfl
  | append other => rfl

/-- Several calls add what each of them adds, one after the other. -/
theorem data_callAll (w : Writer) (calls : List Call) :
    (w.callAll calls).data = w.data ++ calls.flatMap Call.added := by
  induction calls generalizing w with
  | nil => exact (List.append_nil _).symm
  | cons c rest ih =>
    change ((w.call c).2.callAll rest).data = _
    rw [ih, data_call, List.append_assoc, List.flatMap_cons]

/-- What a writer holds after some calls is the beginning of what it holds after further ones.
A header adds the bytes that its encoded length tells, or nothing if it is refused, which is when
its name cannot be stored. A glyph adds its record, which is as long as a header with its width and
its number of rows tells. If one of its rows is too wide, and only then, it is refused for the first
such row and adds its index and the rows before this one. Another writer adds its bytes. A row that
is added is told by its bytes. -/
theorem calls_only_append :
    (∀ (w : Writer) (calls more : List Call),
      (w.callAll calls).data <+: (w.callAll (calls ++ more)).data) ∧
    (∀ (w : Writer) (h : Header),
      ((w.writeHeader h).1 = .ok () ↔ Storable h.name) ∧
      (Storable h.name → ∃ added, (w.writeHeader h).2.data = w.data ++ added ∧
        added.length = h.encodedLength) ∧
      (¬ Storable h.name → (w.writeHeader h).2 = w)) ∧
    (∀ (w : Writer) (width : RowWidth) (index : UInt8) (rows : List UInt64),
      let result := (w.writeGlyph width index rows).1
      let written := (w.writeGlyph width index rows).2.data
      (result = .ok () ↔ ∀ row ∈ rows, row.toNat ≤ width.maxValue) ∧
      (result = .ok () → ∃ added, written = w.data ++ added ∧
        added.length = 1 + rows.length * width.bytes ∧
        ∀ h : Header, h.width = width → h.height.toNat = rows.length →
          added.length = h.recordLength) ∧
      (∀ e, result = .error e ↔ ∃ before row rest, rows = before ++ row :: rest ∧
        (∀ b ∈ before, b.toNat ≤ width.maxValue) ∧ width.maxValue < row.toNat ∧
          e = .rowTooWide row width index) ∧
      (∀ before row rest, rows = before ++ row :: rest →
        (∀ b ∈ before, b.toNat ≤ width.maxValue) →
          (width.maxValue < row.toNat →
            written = w.data ++ index :: before.flatMap (rowBytes width)) ∧
          (row.toNat ≤ width.maxValue →
            let place := w.data.length + 1 + before.length * width.bytes
            decodeNumber ((written.drop place).take (width.bits / 8)) = row.toNat))) ∧
    ∀ w other : Writer, (w.append other).data = w.data ++ other.data := by
  refine ⟨fun w calls more => ?_, fun w h => ?_, fun w width index rows => ?_, fun _ _ => rfl⟩
  · rw [callAll, callAll, List.foldl_append]
    change _ <+: ((w.callAll calls).callAll more).data
    rw [data_callAll (w.callAll calls)]
    exact List.prefix_append _ _
  · refine ⟨result_writeHeader_eq_ok_iff, fun name => ?_, writeHeader_of_not_storable⟩
    exact ⟨headerBytes h, data_writeHeader name, length_headerBytes name⟩
  · refine ⟨result_writeGlyph_eq_ok_iff, fun written => ?_, fun e => writeGlyph_eq_error_iff, ?_⟩
    · have fit := result_writeGlyph_eq_ok_iff.1 written
      have length := length_glyphBytes width ⟨index, rows⟩
      refine ⟨_, data_writeGlyph_of_fit fit, length, fun h sameWidth sameHeight => ?_⟩
      rw [length, Header.recordLength, sameWidth, sameHeight]
    · rintro before row rest rfl fit
      exact ⟨data_writeGlyph_of_wide fit, decodeNumber_written fit⟩

/-- A name that is refused, a glyph whose second row is too wide, and another writer. -/
theorem calls_only_append_wide_row :
    let w : Writer := ⟨[7]⟩
    let header : Header := ⟨0, .w16, 1, 1, .white, "\u00E9"⟩
    let rows : List UInt64 := [0x8001, 0x10000, 2]
    let calls : List Call := [.header header, .glyph .w16 0x41 rows]
    (w.writeHeader header).2 = w ∧
      (w.writeGlyph .w16 0x41 rows).1 = .error (.rowTooWide 0x10000 .w16 0x41) ∧
      (w.writeGlyph .w16 0x41 rows).2.data = [7, 0x41, 0x01, 0x80] ∧
      decodeNumber (((w.writeGlyph .w16 0x41 rows).2.data.drop 2).take 2) = 0x8001 ∧
      (w.callAll calls).data <+: (w.callAll (calls ++ [.append ⟨[1, 2]⟩])).data := by
  intro w header rows calls
  obtain ⟨appended, headers, glyphs, -⟩ := calls_only_append
  have refused := (headers w header).2.2 (by decide)
  obtain ⟨-, -, errors, parts⟩ := glyphs w .w16 0x41 rows
  have fit : ∀ row ∈ [(0x8001 : UInt64)], row.toNat ≤ RowWidth.w16.maxValue := by
    simp [RowWidth.maxValue, RowWidth.bits]
  have result := (errors _).2 ⟨[0x8001], 0x10000, [2], rfl, fit, by decide, rfl⟩
  have written := (parts [0x8001] 0x10000 [2] rfl fit).1 (by decide)
  have row := (parts [] 0x8001 [0x10000, 2] rfl (List.forall_mem_nil _)).2 (by decide)
  exact ⟨refused, result, written, row, appended w calls _⟩

end BitmapFont.Image.Writer
