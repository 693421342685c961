import BitmapFont.FileSystem.Replacement
import BitmapFont.Proofs.FileSystem.Entries
import BitmapFont.Proofs.Outcome

/-!
# Walks in changed file systems

Every place on the way of a path is a directory, except perhaps the last one. So a path leads to the
same place in a file system that has lost no directory, unless nothing is found at that place any
more.

## Main definitions

- `FileSystem.KeepsDirectories` — every directory of one file system is one of another
-/

namespace BitmapFont.FileSystem

/-- Whether the second file system has every directory of the first. -/
def KeepsDirectories (fs fs' : FileSystem) : Prop :=
  ∀ place, fs.entry? place = some .directory → fs'.entry? place = some .directory

variable {fs fs' : FileSystem} {p : Path} {start place : Location}

/-- A file takes no directory away. -/
theorem keepsDirectories_put (h : fs.MayHold place) (content : List UInt8) :
    KeepsDirectories fs (fs.put place content) := by
  intro other directory
  have different : other ≠ place := by
    rintro rfl
    exact h.noDirectory directory
  rw [entry?_put h, if_neg different, directory]

theorem keepsDirectories_of_put (h : fs.MayHold place) (content : List UInt8) :
    KeepsDirectories (fs.put place content) fs := by
  intro other directory
  rw [entry?_put h] at directory
  split at directory
  · exact nomatch directory
  · exact directory

theorem requireDirectory_eq_ok_iff :
    fs.requireDirectory place = .ok () ↔ fs.entry? place = some .directory := by
  unfold requireDirectory
  split
  case h_1 directory => simp [directory]
  case h_2 content file => simp [file]
  case h_3 none => simp [none]

theorem checkPath_eq_ok_iff :
    checkPath p = .ok () ↔
      '\x00' ∉ p.text.toList ∧ p.text ≠ "" ∧ Text.utf8Length p.text ≤ maxPathBytes := by
  unfold checkPath
  split
  case isTrue nul => simp [nul]
  case isFalse noNul =>
    split
    case isTrue empty => simp [empty]
    case isFalse nonempty =>
      split
      case isTrue long => simp [long]
      case isFalse short => simp [noNul, nonempty, Nat.not_lt.1 short]

/-- The place with a name in a directory is in this directory. -/
theorem dropLast_of_child {name : List Char} (h : child start name = .ok place) :
    place.dropLast = start := by
  unfold child at h
  split at h
  case isTrue => exact nomatch h
  case isFalse => rw [← Except.ok.inj h, List.dropLast_concat]

theorem directory_of_step {segment : List Char} (h : fs.step start segment = .ok place) :
    fs.entry? start = some .directory := by
  obtain ⟨_, directory, -⟩ := bind_eq_ok_iff.1 h
  exact requireDirectory_eq_ok_iff.1 directory

/-- A step leads to the same place if the directory in which it starts is kept. -/
theorem step_of_keepsDirectories (kept : KeepsDirectories fs fs') {segment : List Char}
    (h : fs.step start segment = .ok place)
    (present : (fs.entry? place).isSome → (fs'.entry? place).isSome) :
    fs'.step start segment = .ok place := by
  have directory := kept start (directory_of_step h)
  obtain ⟨_, -, moved⟩ := bind_eq_ok_iff.1 h
  refine bind_eq_ok_iff.2 ⟨(), requireDirectory_eq_ok_iff.2 directory, ?_⟩
  by_cases idle : Path.isIdle segment
  · simpa [idle] using moved
  · by_cases up : segment = ['.', '.']
    · simpa [idle, up] using moved
    · -- Only a named place has to be there.
      simp only [idle, up, if_false, Bool.false_eq_true, bind_eq_ok_iff] at moved ⊢
      obtain ⟨next, named, found⟩ := moved
      refine ⟨next, named, ?_⟩
      split at found
      case isTrue some =>
        obtain rfl := pure_eq_ok_iff.1 found
        rw [if_pos (present some)]
        rfl
      case isFalse none => exact nomatch found

theorem follow_cons_eq_ok_iff {segment : List Char} {rest : List (List Char)} :
    fs.follow start (segment :: rest) = .ok place ↔
      ∃ next, fs.step start segment = .ok next ∧ fs.follow next rest = .ok place := by
  rw [follow, List.foldlM_cons, bind_eq_ok_iff]
  rfl

/-- Segments lead to the same place if the directories on their way are kept. -/
theorem follow_of_keepsDirectories (kept : KeepsDirectories fs fs') {segments : List (List Char)}
    (h : fs.follow start segments = .ok place)
    (present : (fs.entry? place).isSome → (fs'.entry? place).isSome) :
    fs'.follow start segments = .ok place := by
  induction segments generalizing start with
  | nil => exact h
  | cons segment rest ih =>
    obtain ⟨next, first, others⟩ := follow_cons_eq_ok_iff.1 h
    refine follow_cons_eq_ok_iff.2 ⟨next, step_of_keepsDirectories kept first ?_, ih others⟩
    -- The place after a step is the last one or a directory.
    cases rest with
    | nil =>
      obtain rfl := pure_eq_ok_iff.1 others
      exact present
    | cons second rest =>
      obtain ⟨_, step, -⟩ := follow_cons_eq_ok_iff.1 others
      intro _
      rw [kept next (directory_of_step step)]
      rfl

/-- Segments that lead to a directory still lead there. -/
theorem follow_to_directory (kept : KeepsDirectories fs fs') {segments : List (List Char)}
    (h : fs.follow start segments = .ok place) (directory : fs.entry? place = some .directory) :
    fs'.follow start segments = .ok place := by
  refine follow_of_keepsDirectories kept h fun _ => ?_
  rw [kept place directory]
  rfl

theorem walk_eq_ok_iff :
    fs.walk p = .ok place ↔ checkPath p = .ok () ∧
      fs.follow (fs.origin p) (Text.pieces '/' p.text.toList) = .ok place := by
  rw [walk, bind_eq_ok_iff]
  exact ⟨fun ⟨_, checked, followed⟩ => ⟨checked, followed⟩,
    fun ⟨checked, followed⟩ => ⟨(), checked, followed⟩⟩

theorem origin_congr (current : fs'.current = fs.current) (p : Path) :
    fs'.origin p = fs.origin p := by
  rw [origin, origin, current]

/-- A path leads to the same place if the directories on its way are kept. -/
theorem walk_of_keepsDirectories (kept : KeepsDirectories fs fs')
    (current : fs'.current = fs.current) (h : fs.walk p = .ok place)
    (present : (fs.entry? place).isSome → (fs'.entry? place).isSome) :
    fs'.walk p = .ok place := by
  obtain ⟨checked, followed⟩ := walk_eq_ok_iff.1 h
  rw [walk_eq_ok_iff, origin_congr current]
  exact ⟨checked, follow_of_keepsDirectories kept followed present⟩

theorem findDirectory_eq_ok_iff :
    fs.findDirectory p = .ok place ↔
      fs.follow (fs.origin p) (Text.pieces '/' p.text.toList) = .ok place ∧
        fs.entry? place = some .directory := by
  simp only [findDirectory, bind_eq_ok_iff, pure_eq_ok_iff]
  constructor
  · rintro ⟨found, followed, _, directory, rfl⟩
    exact ⟨followed, requireDirectory_eq_ok_iff.1 directory⟩
  · rintro ⟨followed, directory⟩
    exact ⟨place, followed, (), requireDirectory_eq_ok_iff.2 directory, rfl⟩

theorem findDirectory_of_keepsDirectories (kept : KeepsDirectories fs fs')
    (current : fs'.current = fs.current) (h : fs.findDirectory p = .ok place) :
    fs'.findDirectory p = .ok place := by
  obtain ⟨followed, directory⟩ := findDirectory_eq_ok_iff.1 h
  rw [findDirectory_eq_ok_iff, origin_congr current]
  exact ⟨follow_to_directory kept followed directory, kept place directory⟩

/-- What is read from a path is told by the entry of the place to which it leads. -/
theorem read_congr (before : fs.walk p = .ok place) (after : fs'.walk p = .ok place)
    (same : fs'.entry? place = fs.entry? place) : fs'.read p = fs.read p := by
  rw [read, read, before, after]
  simp only [bind, Except.bind, same]

theorem read_of_walk {content : List UInt8} (h : fs.walk p = .ok place)
    (file : fs.entry? place = some (.file content)) : fs.read p = .ok content := by
  rw [read, h]
  simp only [bind, Except.bind, file, pure, Except.pure]

theorem exists_walk_of_read {content : List UInt8} (h : fs.read p = .ok content) :
    ∃ place, fs.walk p = .ok place ∧ fs.entry? place = some (.file content) := by
  obtain ⟨place, led, found⟩ := bind_eq_ok_iff.1 h
  refine ⟨place, led, ?_⟩
  split at found
  case h_1 _ file =>
    obtain rfl := pure_eq_ok_iff.1 found
    exact file
  case h_2 => exact nomatch found
  case h_3 => exact nomatch found

theorem isFile_iff : fs.isFile p = true ↔ ∃ content, fs.read p = .ok content := by
  unfold isFile
  cases fs.read p with
  | error e => simp [Except.isOk, Except.toBool]
  | ok content => simp [Except.isOk, Except.toBool]

theorem isFile_congr (h : ∀ content, fs'.read p = .ok content ↔ fs.read p = .ok content) :
    fs'.isFile p = fs.isFile p := by
  rw [Bool.eq_iff_iff, isFile_iff, isFile_iff]
  exact exists_congr h

end BitmapFont.FileSystem
