import BitmapFont.Proofs.Image.Reading
import BitmapFont.Proofs.Image.Writing

/-!
# Font files are canonical

The reader and the writer agree on the format: a file is accepted if and only if a writer makes it
from a well-formed font. So each well-formed font has one file, and each accepted file one font.
-/

namespace BitmapFont.Image

open Writer (writeFont writeFont_eq_ok_iff)

/-- A file is accepted if and only if a writer makes it from a well-formed font. -/
theorem read_eq_ok_iff_writeFont {data : List UInt8} {f : Font} :
    read data = .ok f ↔ f.WellFormed ∧ writeFont f = .ok data := by
  rw [read_eq_ok_iff, writeFont_eq_ok_iff]
  constructor
  · rintro ⟨formed, rfl⟩
    exact ⟨formed, formed.name, formed.width, rfl⟩
  · rintro ⟨formed, _, _, rfl⟩
    exact ⟨formed, rfl⟩

theorem writeFont_of_wellFormed {f : Font} (formed : f.WellFormed) :
    writeFont f = .ok (fontBytes f) :=
  writeFont_eq_ok_iff.2 ⟨formed.name, formed.width, rfl⟩

/-- The reader accepts exactly what writers make from well-formed fonts. It gives back every
well-formed font that was written, a writer gives back every file that was read, and two files with
the same font are the same. -/
theorem reader_inverts_writer :
    (∀ (data : List UInt8) (f : Font),
      read data = .ok f ↔ f.WellFormed ∧ writeFont f = .ok data) ∧
    (∀ f : Font, f.WellFormed → ∃ data, writeFont f = .ok data ∧ read data = .ok f) ∧
    (∀ (data : List UInt8) (f : Font), read data = .ok f → writeFont f = .ok data) ∧
    (∀ (data data' : List UInt8) (f : Font),
      read data = .ok f → read data' = .ok f → data = data') := by
  refine ⟨fun data f => read_eq_ok_iff_writeFont, ?_, ?_, ?_⟩
  · intro f formed
    have written := writeFont_of_wellFormed formed
    exact ⟨fontBytes f, written, read_eq_ok_iff_writeFont.2 ⟨formed, written⟩⟩
  · intro data f accepted
    exact (read_eq_ok_iff_writeFont.1 accepted).2
  · intro data data' f accepted accepted'
    rw [(read_eq_ok_iff.1 accepted).2, (read_eq_ok_iff.1 accepted').2]

/-- A font of two glyphs with 16 columns and two rows, and its file. -/
theorem reader_inverts_writer_two_glyphs :
    read [0xBF, 0xFF, 1, 0, 16, 2, 2, 1, 2, 3, 0x54, 0x74, 0,
        0x42, 0x00, 0x80, 0x01, 0x00, 0x41, 0x00, 0x00, 0xFF, 0xFF] =
      .ok ⟨⟨0, .w16, 2, 2, ⟨1, 2, 3⟩, "Tt"⟩, [⟨0x42, [0x8000, 1]⟩, ⟨0x41, [0, 0xFFFF]⟩]⟩ := by
  refine (reader_inverts_writer.1 _ _).2 ⟨⟨⟨.ascii, ?_, ?_⟩, ?_, ?_, ?_, ?_, ?_⟩, ?_⟩
  · decide
  · decide
  · decide
  · decide
  · decide
  · simp [RowWidth.maxValue, RowWidth.bits]
  · decide
  · decide

end BitmapFont.Image
