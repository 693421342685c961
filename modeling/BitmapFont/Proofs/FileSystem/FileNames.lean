import BitmapFont.Proofs.FileSystem.Replacement
import BitmapFont.Proofs.Text.Cutting

/-!
# Names of files

A path under which a file is read ends in a name, because what is found under a path that ends in
dots or in a slash is a directory. So such a path has a file name, also as seen from another
directory.

## Main definitions

- `Path.lastSegment`, `Path.EndsInName` — the end of a path
-/

namespace BitmapFont

namespace Path

/-- The text after the last slash of a path. -/
def lastSegment (p : Path) : List Char :=
  (Text.pieces '/' p.text.toList).getLast?.getD []

/-- Whether a path ends in a name. -/
def EndsInName (p : Path) : Prop :=
  isIdle p.lastSegment = false ∧ p.lastSegment ≠ ['.', '.']

theorem getLast?_pieces (p : Path) :
    (Text.pieces '/' p.text.toList).getLast? = some p.lastSegment := by
  have nonempty := Text.pieces_ne_nil '/' p.text.toList
  rw [lastSegment, List.getLast?_eq_some_getLast nonempty, Option.getD_some]

theorem getLast?_pieces_append_slash (before after : List Char) :
    (Text.pieces '/' (before ++ '/' :: after)).getLast? = (Text.pieces '/' after).getLast? := by
  have nonempty := Text.pieces_ne_nil '/' after
  rw [Text.pieces_append_separator, List.getLast?_append,
    List.getLast?_eq_some_getLast nonempty, Option.some_or]

/-- A path as seen from a directory is the path after a slash, unless it is the path itself. -/
theorem text_join (base p : Path) :
    (base.join p).text.toList = p.text.toList ∨
      ∃ before, (base.join p).text.toList = before ++ '/' :: p.text.toList := by
  unfold join
  split
  · exact Or.inl rfl
  · dsimp only
    split
    case isTrue ended =>
      obtain empty | slash := ended
      · exact Or.inl (by simp [empty])
      · obtain ⟨before, same⟩ := List.getLast?_eq_some_iff.1 slash
        exact Or.inr ⟨before, by simp [same]⟩
    case isFalse => exact Or.inr ⟨base.text.toList, by simp⟩

@[simp] theorem lastSegment_join (base p : Path) :
    (base.join p).lastSegment = p.lastSegment := by
  obtain same | ⟨before, same⟩ := text_join base p
  · rw [lastSegment, same, lastSegment]
  · rw [lastSegment, same, getLast?_pieces_append_slash, lastSegment]

theorem endsInName_join {base p : Path} : (base.join p).EndsInName ↔ p.EndsInName := by
  rw [EndsInName, lastSegment_join, EndsInName]

theorem getLast?_split {s : List Char} (h : s ≠ ['.']) :
    (split s).2.getLast? = (Text.pieces '/' s).getLast? := by
  -- Only a single dot is all start and leaves no segment of its own.
  unfold split
  split
  case h_1 rest => exact (getLast?_pieces_append_slash [] rest).symm
  case h_2 => exact absurd rfl h
  case h_3 rest =>
    have slash := getLast?_pieces_append_slash [] rest
    have dot := getLast?_pieces_append_slash ['.'] rest
    exact slash.trans dot.symm
  case h_4 => rfl

/-- A path that ends in a name has this file name. -/
theorem EndsInName.fileName?_eq {p : Path} (h : p.EndsInName) :
    p.fileName? = some p.lastSegment := by
  obtain ⟨notIdle, notUp⟩ := h
  have notDot : p.text.toList ≠ ['.'] := by
    intro dot
    have last : p.lastSegment = ['.'] := by rw [lastSegment, dot]; rfl
    rw [last] at notIdle
    exact nomatch notIdle
  have last := (getLast?_split notDot).trans p.getLast?_pieces
  obtain ⟨before, segments⟩ := List.getLast?_eq_some_iff.1 last
  have component : segmentComponent? p.lastSegment = some (.normal p.lastSegment) := by
    rw [segmentComponent?, notIdle, if_neg Bool.false_ne_true, if_neg notUp]
  have final : p.components.getLast? = some (.normal p.lastSegment) := by
    rw [components]
    dsimp only
    rw [segments, List.filterMap_append, List.filterMap_cons_some component, List.filterMap_nil,
      ← List.append_assoc, List.getLast?_concat]
  rw [fileName?, final]

theorem EndsInName.exists_withExtension? {p : Path} (h : p.EndsInName) (extension : String) :
    ∃ q, p.withExtension? extension = some q := by
  rw [withExtension?, fileStem?, h.fileName?_eq]
  exact ⟨_, rfl⟩

end Path

namespace FileSystem

variable {fs : FileSystem} {p : Path} {place : Location}

theorem exists_step_of_walk (h : fs.walk p = .ok place) :
    ∃ directory, fs.entry? directory = some .directory ∧
      fs.step directory p.lastSegment = .ok place := by
  obtain ⟨_, followed⟩ := walk_eq_ok_iff.1 h
  obtain ⟨before, segments⟩ := List.getLast?_eq_some_iff.1 p.getLast?_pieces
  rw [segments, follow, List.foldlM_append] at followed
  obtain ⟨directory, _, last⟩ := bind_eq_ok_iff.1 followed
  obtain ⟨next, stepped, same⟩ := follow_cons_eq_ok_iff.1 last
  obtain rfl := pure_eq_ok_iff.1 same
  exact ⟨directory, directory_of_step stepped, stepped⟩

/-- A step leads to a place in the directory where it starts, unless the segment says nothing or
leads up. -/
theorem step_cases {directory : Location} {segment : List Char}
    (h : fs.step directory segment = .ok place) :
    (Path.isIdle segment = true ∧ place = directory) ∨
      (segment = ['.', '.'] ∧ place = directory.dropLast) ∨
        (Path.isIdle segment = false ∧ segment ≠ ['.', '.'] ∧ place.dropLast = directory) := by
  obtain ⟨_, _, moved⟩ := bind_eq_ok_iff.1 h
  by_cases idle : Path.isIdle segment = true
  · rw [if_pos idle] at moved
    exact Or.inl ⟨idle, (pure_eq_ok_iff.1 moved).symm⟩
  · rw [if_neg idle] at moved
    by_cases up : segment = ['.', '.']
    · rw [if_pos up] at moved
      exact Or.inr (Or.inl ⟨up, (pure_eq_ok_iff.1 moved).symm⟩)
    · rw [if_neg up] at moved
      obtain ⟨next, named, found⟩ := bind_eq_ok_iff.1 moved
      have same : next = place := by
        split at found
        case isTrue => exact pure_eq_ok_iff.1 found
        case isFalse => exact nomatch found
      exact Or.inr (Or.inr ⟨Bool.eq_false_iff.2 idle, up, same ▸ dropLast_of_child named⟩)

/-- A path under which a file is read ends in a name. -/
theorem endsInName_of_read {content : List UInt8} (h : fs.read p = .ok content) :
    p.EndsInName := by
  obtain ⟨place, led, file⟩ := exists_walk_of_read h
  obtain ⟨directory, found, stepped⟩ := exists_step_of_walk led
  obtain ⟨_, rfl⟩ | ⟨_, rfl⟩ | ⟨notIdle, notUp, _⟩ := step_cases stepped
  · exact nomatch file.symm.trans found
  · have above := entry?_dropLast_of_isSome (by rw [found]; rfl)
    exact nomatch file.symm.trans above
  · exact ⟨notIdle, notUp⟩

end FileSystem

end BitmapFont
