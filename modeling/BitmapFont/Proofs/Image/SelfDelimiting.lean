import BitmapFont.Proofs.Image.Reading

/-!
# Where font files end

The header of a font file tells how long the file is, and nothing after the header takes part in
reading it. So a file that was cut off is rejected wherever it was cut, and so is one that goes on
after its last glyph: no accepted file is the beginning of a longer one.
-/

namespace BitmapFont.Image

variable {data data' rest : List UInt8} {header : Header} {f f' : Font}

/-- What follows a header takes no part in reading it. -/
theorem readHeader_append (h : readHeader data = .ok (header, rest)) (more : List UInt8) :
    readHeader (data ++ more) = .ok (header, rest ++ more) := by
  obtain ⟨known, name, rfl⟩ := readHeader_eq_ok_iff.1 h
  exact readHeader_eq_ok_iff.2 ⟨known, name, List.append_assoc _ _ _⟩

theorem exists_readHeader_of_read (h : read data = .ok f) :
    ∃ rest, readHeader data = .ok (f.header, rest) := by
  obtain ⟨formed, rfl⟩ := read_eq_ok_iff.1 h
  exact ⟨_, readHeader_eq_ok_iff.2 ⟨isSome_ofTag?.2 formed.charset, formed.name, rfl⟩⟩

/-- An accepted file is as long as its header tells. -/
theorem length_of_read (h : read data = .ok f) :
    data.length =
      f.header.encodedLength + f.header.glyphCount.toNat * f.header.recordLength := by
  obtain ⟨formed, rfl⟩ := read_eq_ok_iff.1 h
  rw [length_fontBytes formed.name formed.height, formed.count]

/-- A file that begins with an accepted one has the same header, so that it is accepted only if it
is no longer. -/
theorem eq_of_isPrefix (accepted : read data = .ok f) (accepted' : read data' = .ok f')
    (begins : data <+: data') : data = data' := by
  obtain ⟨more, rfl⟩ := begins
  obtain ⟨rest, short⟩ := exists_readHeader_of_read accepted
  obtain ⟨rest', long⟩ := exists_readHeader_of_read accepted'
  have same : f.header = f'.header :=
    (Prod.mk.inj (Except.ok.inj ((readHeader_append short more).symm.trans long))).1
  have lengths : data.length = (data ++ more).length := by
    rw [length_of_read accepted, length_of_read accepted', same]
  exact (List.prefix_append data more).eq_of_length lengths

/-- An accepted file is rejected if it is cut off anywhere and if anything follows it. So two
accepted files of which one begins with the other are the same. -/
theorem read_self_delimiting :
    (∀ (data : List UInt8) (f : Font), read data = .ok f →
      (∀ n < data.length, ∃ e, read (data.take n) = .error e) ∧
        ∀ more, more ≠ [] → ∃ e, read (data ++ more) = .error e) ∧
    ∀ (data data' : List UInt8) (f f' : Font),
      read data = .ok f → read data' = .ok f' → data <+: data' → data = data' := by
  refine ⟨fun data f accepted => ⟨fun n cut => ?_, fun more nonempty => ?_⟩,
    fun data data' f f' => eq_of_isPrefix⟩
  · refine exists_error_iff.2 fun f' shorter => ?_
    have same := eq_of_isPrefix shorter accepted (List.take_prefix n data)
    have length := congrArg List.length same
    rw [List.length_take, Nat.min_eq_left (Nat.le_of_lt cut)] at length
    exact absurd length (Nat.ne_of_lt cut)
  · refine exists_error_iff.2 fun f' longer => ?_
    have same := eq_of_isPrefix accepted longer (List.prefix_append data more)
    exact nonempty (List.self_eq_append_right.1 same)

/-- A font without a name whose only row is zero. Its file may be cut before the row, within the
header, or go on with another zero byte, and it begins with none of the accepted files without a
glyph. -/
theorem read_self_delimiting_zero_row :
    let data : List UInt8 := [0xBF, 0xFF, 1, 0, 8, 1, 1, 255, 255, 255, 0, 0x41, 0]
    let bare : List UInt8 := [0xBF, 0xFF, 1, 0, 8, 1, 0, 255, 255, 255, 0]
    read data = .ok ⟨⟨0, .w8, 1, 1, .white, ""⟩, [⟨0x41, [0]⟩]⟩ ∧
      (∃ e, read (data.take 12) = .error e) ∧ (∃ e, read (data.take 11) = .error e) ∧
      (∃ e, read (data ++ [0]) = .error e) ∧ ¬ bare <+: data := by
  intro data bare
  have accepted : read data = .ok ⟨⟨0, .w8, 1, 1, .white, ""⟩, [⟨0x41, [0]⟩]⟩ := by
    decide +kernel
  have acceptedBare : read bare = .ok ⟨⟨0, .w8, 1, 0, .white, ""⟩, []⟩ := by decide +kernel
  obtain ⟨cut, followed⟩ := read_self_delimiting.1 data _ accepted
  refine ⟨accepted, cut 12 (by decide), cut 11 (by decide), followed [0] (by simp), ?_⟩
  intro begins
  have same := read_self_delimiting.2 bare data _ _ acceptedBare accepted begins
  exact absurd (congrArg List.length same) (by decide)

end BitmapFont.Image
