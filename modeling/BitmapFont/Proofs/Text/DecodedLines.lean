import BitmapFont.Proofs.Text.Cutting
import BitmapFont.Proofs.Text.Decoding

/-!
# Lines and marks of decoded bytes

The lines of a decoded text are the decoded lines of the bytes, so damage on one line is of no
consequence to the others. A byte order mark is read from the bytes that encode it and from no
others.

## Main definitions

- `markBytes` — the encoding of the byte order mark
-/

namespace BitmapFont.Text

/-- The bytes that encode a byte order mark. -/
def markBytes : List UInt8 := [0xEF, 0xBB, 0xBF]

variable {bytes : List UInt8}

theorem utf8EncodeChar_mark : String.utf8EncodeChar '\uFEFF' = markBytes := by
  decide

/-! ### Lines -/

theorem decode_append_lineFeed (before after : List UInt8) :
    decode (before ++ [0x0A] ++ after) = decode before ++ "\n" ++ decode after := by
  rw [List.append_assoc, List.singleton_append, ← String.toList_inj, String.toList_append,
    String.toList_append, toList_decode, toList_decode, toList_decode,
    Decoder.decodeFrom_append_cons none before after (by decide), List.append_assoc]
  rfl

/-- A line feed is decoded only where there is one. -/
theorem Decodes.lineFeed_mem {s : List Char} (h : Decodes bytes s) (mem : '\n' ∈ s) :
    0x0A ∈ bytes := by
  induction h with
  | nil => exact absurd mem List.not_mem_nil
  | char c _ ih =>
    obtain rfl | later := List.mem_cons.1 mem
    · exact List.mem_append_left _ (by decide)
    · exact List.mem_append_right _ (ih later)
  | damage _ _ ih =>
    have later := List.mem_of_ne_of_mem (by decide) mem
    exact List.mem_append_right _ (ih later)

theorem lineFeed_not_mem_decode (single : 0x0A ∉ bytes) : '\n' ∉ (decode bytes).toList :=
  fun mem => single ((decode_eq_iff.1 rfl).lineFeed_mem mem)

/-- Lines are decoded one by one. -/
theorem toList_decode_intercalate (lines : List (List UInt8)) :
    (decode ([0x0A].intercalate lines)).toList =
      ['\n'].intercalate (lines.map fun line => (decode line).toList) := by
  induction lines with
  | nil => rfl
  | cons line rest ih =>
    by_cases last : rest = []
    · subst last
      rw [List.intercalate_singleton, List.map_singleton, List.intercalate_singleton]
    · have more : (rest.map fun line => (decode line).toList) ≠ [] := by simpa using last
      rw [List.intercalate_cons_of_ne_nil last, decode_append_lineFeed, String.toList_append,
        String.toList_append, ih, List.map_cons, List.intercalate_cons_of_ne_nil more]
      rfl

theorem pieces_decode {lines : List (List UInt8)} (single : ∀ line ∈ lines, 0x0A ∉ line)
    (nonempty : lines ≠ []) :
    pieces '\n' (decode ([0x0A].intercalate lines)).toList =
      lines.map fun line => (decode line).toList := by
  rw [toList_decode_intercalate, pieces_intercalate _ (by simpa using nonempty)]
  intro part hpart
  obtain ⟨line, hline, rfl⟩ := List.mem_map.1 hpart
  exact lineFeed_not_mem_decode (single line hline)

/-! ### Encoded texts -/

theorem data_toUTF8 (s : String) :
    s.toUTF8.data.toList = s.toList.flatMap String.utf8EncodeChar := by
  rw [String.toUTF8_eq_toByteArray, ← String.utf8Encode_toList]
  simp [List.utf8Encode]

theorem decodes_flatMap_utf8EncodeChar (s : List Char) :
    Decodes (s.flatMap String.utf8EncodeChar) s := by
  induction s with
  | nil => exact .nil
  | cons c rest ih =>
    rw [List.flatMap_cons]
    exact .char c ih

/-- The encoding of a text is decoded to the text. -/
theorem decode_toUTF8 (s : String) : decode s.toUTF8.data.toList = s := by
  rw [decode_eq_iff, data_toUTF8]
  exact decodes_flatMap_utf8EncodeChar s.toList

/-! ### Byte order marks -/

/-- Only the first byte order mark is dropped. -/
theorem dropMark_append (s : String) : dropMark ("\uFEFF" ++ s) = s := by
  have marked : ("\uFEFF" ++ s).toList = '\uFEFF' :: s.toList := String.toList_append
  unfold dropMark
  rw [marked]
  exact String.ofList_toList

theorem dropMark_eq_self {s : String} (unmarked : s.toList.head? ≠ some '\uFEFF') :
    dropMark s = s := by
  fun_cases dropMark s with
  | case1 rest same => exact absurd (by rw [same]; rfl) unmarked
  | case2 => rfl

/-- Where a text has a byte order mark, the bytes encode one. -/
theorem Decodes.starts_with_mark {s : List Char} (h : Decodes bytes s)
    (marked : s.head? = some '\uFEFF') : markBytes <+: bytes := by
  cases h with
  | nil => exact nomatch marked
  | char c _ =>
    obtain rfl : c = '\uFEFF' := by simpa using marked
    rw [utf8EncodeChar_mark]
    exact List.prefix_append _ _
  | damage _ _ => exact absurd (Option.some.inj marked) (by decide)

theorem decode_markBytes_append (bytes : List UInt8) :
    decode (markBytes ++ bytes) = "\uFEFF" ++ decode bytes := by
  rw [← utf8EncodeChar_mark, ← String.toList_inj, String.toList_append, toList_decode,
    decodeFrom_encoding, toList_decode]
  rfl

theorem decodeFile_markBytes_append (bytes : List UInt8) :
    decodeFile (markBytes ++ bytes) = decode bytes := by
  rw [decodeFile, decode_markBytes_append, dropMark_append]

theorem decodeFile_of_unmarked (unmarked : ¬ markBytes <+: bytes) :
    decodeFile bytes = decode bytes :=
  dropMark_eq_self fun marked => unmarked ((decode_eq_iff.1 rfl).starts_with_mark marked)

/-! ### Lines of files -/

/-- A byte order mark is dropped from the first line. -/
theorem pieces_dropMark (s : String) :
    pieces '\n' (dropMark s).toList =
      (pieces '\n' s.toList).modifyHead fun line => (dropMark (String.ofList line)).toList := by
  fun_cases dropMark s with
  | case1 rest same =>
    obtain ⟨first, others, split⟩ := List.exists_cons_of_ne_nil (pieces_ne_nil '\n' rest)
    have marked : String.ofList ('\uFEFF' :: first) = "\uFEFF" ++ String.ofList first :=
      String.toList_inj.1 (by simp)
    rw [same, pieces_cons, if_neg (by decide), String.toList_ofList, split, List.modifyHead_cons,
      List.modifyHead_cons, marked, dropMark_append, String.toList_ofList]
  | case2 unmarked =>
    obtain ⟨first, others, split⟩ := List.exists_cons_of_ne_nil (pieces_ne_nil '\n' s.toList)
    have whole := intercalate_pieces '\n' s.toList
    rw [split] at whole ⊢
    have same : dropMark (String.ofList first) = String.ofList first := by
      apply dropMark_eq_self
      rw [String.toList_ofList]
      intro marked
      obtain ⟨tail, rfl⟩ := List.head?_eq_some_iff.1 marked
      rw [List.intercalate_cons_cons_left] at whole
      exact unmarked _ whole.symm
    rw [List.modifyHead_cons, same, String.toList_ofList]

/-- The lines of a file are its decoded lines, the first without a byte order mark. -/
theorem pieces_decodeFile {first : List UInt8} {rest : List (List UInt8)}
    (single : ∀ line ∈ first :: rest, 0x0A ∉ line) :
    pieces '\n' (decodeFile ([0x0A].intercalate (first :: rest))).toList =
      (decodeFile first).toList :: rest.map fun line => (decode line).toList := by
  rw [decodeFile, pieces_dropMark, pieces_decode single (List.cons_ne_nil _ _), List.map_cons,
    List.modifyHead_cons, String.ofList_toList, decodeFile]

/-- What is on a line of a file does not depend on the other lines, whatever bytes they have. -/
theorem getElem?_lines_decodeFile {parts others : List (List UInt8)} {i : Nat}
    (single : ∀ line ∈ parts ++ others, 0x0A ∉ line) (count : others.length = parts.length)
    (same : others[i]? = parts[i]?) :
    (lines (decodeFile ([0x0A].intercalate others)).toList)[i]? =
      (lines (decodeFile ([0x0A].intercalate parts)).toList)[i]? := by
  obtain ⟨left, right⟩ := List.forall_mem_append.1 single
  cases parts with
  | nil =>
    obtain rfl := List.eq_nil_of_length_eq_zero count
    rfl
  | cons first rest =>
    obtain ⟨first', rest', rfl⟩ := List.exists_cons_of_length_eq_add_one count
    apply getElem?_lines_congr
    · rw [pieces_decodeFile left, pieces_decodeFile right]
      simpa using count
    · rw [pieces_decodeFile left, pieces_decodeFile right]
      cases i with
      | zero =>
        obtain rfl : first' = first := by simpa using same
        rfl
      | succ i =>
        simp only [List.getElem?_cons_succ] at same
        simp only [List.getElem?_cons_succ, List.getElem?_map, same]

end BitmapFont.Text
