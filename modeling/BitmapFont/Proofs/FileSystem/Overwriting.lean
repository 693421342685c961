import BitmapFont.Proofs.FileSystem.Replacement
import BitmapFont.Proofs.Text.Ascii

/-!
# Replacing a file again

What a file held before it was replaced does not matter to its replacement, nor to any path that
leads elsewhere. So a file can be replaced again, whatever it holds by then.

## Main definitions

- `FileSystem.SamePlace` — two paths lead to the same place
-/

namespace BitmapFont.FileSystem

/-- Whether two paths lead to the same place. -/
def SamePlace (fs : FileSystem) (p q : Path) : Prop :=
  ∃ place, fs.walk p = .ok place ∧ fs.walk q = .ok place

variable {fs fs' : FileSystem} {p : Path} {place : Location}

theorem AgreeExcept.symm (h : AgreeExcept place fs fs') : AgreeExcept place fs' fs :=
  ⟨h.1.symm, fun other different => (h.2 other different).symm⟩

theorem AgreeExcept.trans {fs'' : FileSystem} (h : AgreeExcept place fs fs')
    (h' : AgreeExcept place fs' fs'') : AgreeExcept place fs fs'' :=
  ⟨h'.1.trans h.1, fun other different => (h'.2 other different).trans (h.2 other different)⟩

theorem AgreeExcept.keepsDirectories (h : AgreeExcept place fs fs')
    (noDirectory : fs.entry? place ≠ some .directory) : KeepsDirectories fs fs' := by
  intro other directory
  have different : other ≠ place := by
    rintro rfl
    exact noDirectory directory
  rw [h.2 other different, directory]

theorem read_eq_ok_iff_of_agreeExcept (agree : AgreeExcept place fs fs') {old : List UInt8}
    (file : fs.entry? place = some (.file old))
    (noDirectory : fs'.entry? place ≠ some .directory) (apart : fs.walk p ≠ .ok place)
    {content : List UInt8} : fs'.read p = .ok content ↔ fs.read p = .ok content := by
  have kept : KeepsDirectories fs fs' := agree.keepsDirectories (by simp [file])
  have lost : KeepsDirectories fs' fs := agree.symm.keepsDirectories noDirectory
  have elsewhere {other : Location} (led : fs.walk p = .ok other) :
      fs'.entry? other = fs.entry? other := by
    apply agree.2
    rintro rfl
    exact apart led
  constructor
  · intro found
    obtain ⟨other, led', content'⟩ := exists_walk_of_read found
    -- Something is found wherever the path leads in the other file system.
    have led : fs.walk p = .ok other := by
      apply walk_of_keepsDirectories lost agree.symm.1 led'
      intro present
      by_cases same : other = place
      · rw [same, file]
        rfl
      · rw [← agree.2 other same]
        exact present
    rw [elsewhere led] at content'
    exact read_of_walk led content'
  · intro found
    obtain ⟨other, led, content⟩ := exists_walk_of_read found
    rw [← elsewhere led] at content
    refine read_of_walk (walk_of_keepsDirectories kept agree.1 led fun _ => ?_) content
    rw [content]
    rfl

/-- The file that was replaced does not matter to the paths that do not lead to it. -/
theorem Replaces.read_eq_ok_iff {target : Path} {new : List UInt8}
    (h : Replaces fs fs' target new place) {other : FileSystem} (agree : AgreeExcept place fs other)
    (noDirectory : other.entry? place ≠ some .directory) (apart : ¬ fs'.SamePlace target p)
    (content : List UInt8) : other.read p = .ok content ↔ fs.read p = .ok content := by
  have elsewhere : fs'.walk p ≠ .ok place := fun led => apart ⟨place, h.walk, led⟩
  have now : other.read p = .ok content ↔ fs'.read p = .ok content :=
    read_eq_ok_iff_of_agreeExcept (h.agree.symm.trans agree) h.file noDirectory elsewhere
  have before : fs.read p = .ok content ↔ fs'.read p = .ok content :=
    read_eq_ok_iff_of_agreeExcept h.agree.symm h.file h.before elsewhere
  exact now.trans before.symm

namespace IsTemporaryName

variable {name : String}

theorem lt_128_and_ne_nul (h : IsTemporaryName name) :
    ∀ c ∈ name.toList, c.toNat < 128 ∧ c ≠ '\x00' := by
  obtain ⟨suffix, _, named, same⟩ := h
  intro c hc
  rw [same] at hc
  obtain start | rest := List.mem_append.1 hc
  · have all : ∀ c ∈ ['.', 't', 'm', 'p'], c.toNat < 128 ∧ c ≠ '\x00' := by simp
    exact all c start
  · refine ⟨Text.lt_128_of_isAlphanum (named c rest), ?_⟩
    rintro rfl
    exact absurd (named _ rest) (by decide)

theorem utf8Length_eq (h : IsTemporaryName name) : Text.utf8Length name = 10 := by
  rw [Text.utf8Length_of_ascii fun c hc => (h.lt_128_and_ne_nul c hc).1]
  obtain ⟨suffix, six, _, same⟩ := h
  rw [same, List.length_append, six]
  rfl

theorem text_join (h : IsTemporaryName name) (base : Path) :
    (base.join ⟨name⟩).text = (base.join ⟨""⟩).text ++ name := by
  obtain ⟨suffix, _, _, same⟩ := h
  have relative : Path.isAbsolute ⟨name⟩ = false := by
    simp [Path.isAbsolute, same]
  have empty : Path.isAbsolute ⟨""⟩ = false := by decide
  rw [Path.join, relative, Path.join, empty]
  simp

end IsTemporaryName

theorem checkPath_join_temporary {base : Path} {name other : String} (h : IsTemporaryName name)
    (h' : IsTemporaryName other) (checked : checkPath (base.join ⟨name⟩) = .ok ()) :
    checkPath (base.join ⟨other⟩) = .ok () := by
  rw [checkPath_eq_ok_iff, h.text_join, Text.utf8Length_append, h.utf8Length_eq] at checked
  rw [checkPath_eq_ok_iff, h'.text_join, Text.utf8Length_append, h'.utf8Length_eq]
  obtain ⟨noNul, _, short⟩ := checked
  rw [String.toList_append, List.mem_append, not_or] at noNul ⊢
  refine ⟨⟨noNul.1, fun nul => (h'.lt_128_and_ne_nul _ nul).2 rfl⟩, ?_, short⟩
  obtain ⟨suffix, _, _, same⟩ := h'
  intro empty
  have nothing := congrArg String.toList empty
  rw [String.toList_append, same] at nothing
  exact absurd nothing (by simp)

/-- A file that can be replaced can be replaced again, whatever is found at its place by then,
unless it is a directory, if a name is found for the temporary file. -/
theorem Replaceable.again {naming again : Naming} (h : fs.Replaceable naming p place)
    (agree : AgreeExcept place fs fs') (noDirectory : fs'.entry? place ≠ some .directory)
    (finds : again.FindsName fs' (temporaryDirectory p)) : fs'.Replaceable again p place := by
  have kept := agree.keepsDirectories (mayHold_of_renameTarget h.target).noDirectory
  constructor
  case temporary =>
    obtain ⟨_, ⟨checked, found, _⟩⟩ := h.temporary
    have found' := findDirectory_of_keepsDirectories kept agree.1 found
    obtain ⟨name, free⟩ := finds _ found'
    refine ⟨_, .intro ?_ found' free⟩
    rw [agree.1]
    exact checkPath_join_temporary (naming.isTemporary 0) (again.isTemporary 0) checked
  case target => exact renameTarget_of_keepsDirectories kept agree.1 h.target noDirectory

end BitmapFont.FileSystem
