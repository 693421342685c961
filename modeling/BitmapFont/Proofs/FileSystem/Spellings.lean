import BitmapFont.Proofs.FileSystem.FileNames

/-!
# Spellings of paths

The components of a path tell where it starts and which of its segments say something. Segments
that say nothing make no difference to where a path leads unless one of them is at its end. So two
paths with the same components and the same end lead to the same files, as long as neither of them
is too long.

## Main definitions

- `PathComponent.segment` — how a component is written
- `Path.significant` — the segments of a path that say something
-/

namespace BitmapFont

/-- How a component is written between slashes. The root is written as an empty segment before the
first slash. -/
def PathComponent.segment : PathComponent → List Char
  | root => []
  | current => ['.']
  | parent => ['.', '.']
  | normal name => name

namespace Path

/-- The segments of a path that say something. -/
def significant (p : Path) : List (List Char) :=
  (Text.pieces '/' p.text.toList).filter fun segment => !isIdle segment

theorem isIdle_iff {segment : List Char} :
    isIdle segment = true ↔ segment = [] ∨ segment = ['.'] := by
  rw [isIdle, Bool.or_eq_true, decide_eq_true_iff, decide_eq_true_iff]

theorem segmentComponent?_of_idle {segment : List Char} (idle : isIdle segment = true) :
    segmentComponent? segment = none := if_pos idle

/-- A segment that says something can be told from what it says. -/
theorem exists_segmentComponent? {segment : List Char} (telling : isIdle segment = false) :
    ∃ component, segmentComponent? segment = some component ∧ component.segment = segment ∧
      component ≠ .root := by
  rw [segmentComponent?, telling, if_neg Bool.false_ne_true]
  by_cases up : segment = ['.', '.']
  · exact ⟨.parent, if_pos up, up.symm, PathComponent.noConfusion⟩
  · exact ⟨.normal segment, if_neg up, rfl, PathComponent.noConfusion⟩

theorem filter_map_segment (segments : List (List Char)) :
    ((segments.filterMap segmentComponent?).map PathComponent.segment).filter (!isIdle ·) =
      segments.filter (!isIdle ·) := by
  induction segments with
  | nil => rfl
  | cons segment rest ih =>
    cases idle : isIdle segment with
    | true => rw [List.filterMap_cons_none (segmentComponent?_of_idle idle), ih,
        List.filter_cons_of_neg (by simp [idle])]
    | false =>
      obtain ⟨component, meant, written, _⟩ := exists_segmentComponent? idle
      have telling : (!isIdle segment) = true := by rw [idle]; rfl
      rw [List.filterMap_cons_some meant, List.map_cons, written, List.filter_cons, if_pos telling,
        List.filter_cons, if_pos telling, ih]

/-- The start of a path is a segment that says nothing. -/
theorem filterMap_split (s : List Char) :
    (split s).2.filterMap segmentComponent? =
      (Text.pieces '/' s).filterMap segmentComponent? := by
  unfold split
  split
  case h_1 rest => rfl
  case h_2 => rfl
  case h_3 rest => rfl
  case h_4 => rfl

/-- The components of a path are its start and what its segments say. -/
theorem components_eq (p : Path) :
    p.components = (leadComponent? (split p.text.toList).1).toList ++
      (Text.pieces '/' p.text.toList).filterMap segmentComponent? := by
  rw [← filterMap_split]
  rfl

theorem filter_leadComponent? (lead : List Char) :
    ((leadComponent? lead).toList.map PathComponent.segment).filter (!isIdle ·) = [] := by
  unfold leadComponent?
  split <;> rfl

/-- The segments of a path that say something are told by its components. -/
theorem significant_eq (p : Path) :
    p.significant = (p.components.map PathComponent.segment).filter (!isIdle ·) := by
  rw [components_eq, List.map_append, List.filter_append, filter_leadComponent?, List.nil_append,
    filter_map_segment, significant]

/-- A path that starts with neither a slash nor a single dot has only segments. -/
theorem split_of_plain {s : List Char} (notAbsolute : ∀ rest, s ≠ '/' :: rest)
    (notDot : s ≠ ['.']) (notHere : ∀ rest, s ≠ '.' :: '/' :: rest) :
    split s = ([], Text.pieces '/' s) := by
  unfold split
  split
  case h_1 rest => exact absurd rfl (notAbsolute rest)
  case h_2 => exact absurd rfl notDot
  case h_3 rest => exact absurd rfl (notHere rest)
  case h_4 => rfl

/-- What follows a slash adds its segments to the text before it, unless there is none. -/
theorem split_append_slash_of_ne_nil {before : List Char} (h : before ≠ []) (after : List Char) :
    split (before ++ '/' :: after) =
      ((split before).1, (split before).2 ++ Text.pieces '/' after) := by
  fun_cases split before with
  | case1 rest => rw [List.cons_append, split, Text.pieces_append_separator]
  | case2 => rfl
  | case3 rest =>
    rw [List.cons_append, List.cons_append, split, ← List.cons_append,
      Text.pieces_append_separator]
  | case4 _ notAbsolute notDot notHere =>
    -- More text behind a slash makes no other start of a text that is not empty.
    obtain ⟨c, rest, rfl⟩ := List.exists_cons_of_ne_nil h
    rw [split_of_plain, Text.pieces_append_separator]
    · intro other same
      exact notAbsolute rest (by rw [(List.cons.inj same).1])
    · simp
    · intro other same
      obtain ⟨rfl, behind⟩ := List.cons.inj same
      cases rest with
      | nil => exact notDot rfl
      | cons d rest => exact notHere rest (by rw [(List.cons.inj behind).1])

/-- Only the text before the first slash matters to the start of a path. -/
theorem split_append_slash (before after : List Char) :
    (split (before ++ '/' :: after)).1 = (split (before ++ ['/'])).1 := by
  by_cases start : before = []
  · subst start
    rfl
  · rw [split_append_slash_of_ne_nil start, split_append_slash_of_ne_nil start]

/-- A path has the same components if a slash in it is repeated. -/
theorem components_repeat_slash (before after : List Char) (n : Nat) :
    components ⟨String.ofList (before ++ '/' :: (List.replicate n '/' ++ after))⟩ =
      components ⟨String.ofList (before ++ '/' :: after)⟩ := by
  have silent : (List.replicate n []).filterMap segmentComponent? = [] :=
    List.filterMap_replicate_of_none rfl
  simp only [components_eq, String.toList_ofList]
  rw [split_append_slash, split_append_slash before after, Text.pieces_append_separator,
    Text.pieces_append_separator, Text.pieces_replicate_separator, List.filterMap_append,
    List.filterMap_append, List.filterMap_append, silent, List.nil_append]

theorem root_not_mem_segments (segments : List (List Char)) :
    PathComponent.root ∉ segments.filterMap segmentComponent? := by
  intro among
  obtain ⟨segment, _, meant⟩ := List.mem_filterMap.1 among
  cases idle : isIdle segment with
  | true => exact nomatch (segmentComponent?_of_idle idle).symm.trans meant
  | false =>
    obtain ⟨component, meant', _, notRoot⟩ := exists_segmentComponent? idle
    exact notRoot (Option.some.inj (meant'.symm.trans meant))

/-- An absolute path is told by its components. -/
theorem isAbsolute_iff (p : Path) : p.isAbsolute = true ↔ .root ∈ p.components := by
  rw [components_eq, isAbsolute, decide_eq_true_iff, List.mem_append,
    or_iff_left (root_not_mem_segments _)]
  generalize p.text.toList = s
  unfold split
  split
  case h_1 => simp [leadComponent?]
  case h_2 => simp [leadComponent?]
  case h_3 => simp [leadComponent?]
  case h_4 relative _ _ =>
    have noSlash : s.head? ≠ some '/' := by
      intro slash
      obtain ⟨rest, rfl⟩ := List.head?_eq_some_iff.1 slash
      exact relative rest rfl
    simp [leadComponent?, noSlash]

theorem nul_mem_iff (p : Path) :
    '\x00' ∈ p.text.toList ↔ ∃ segment ∈ p.significant, '\x00' ∈ segment := by
  rw [Text.mem_iff_of_pieces (by decide : '\x00' ≠ '/')]
  constructor
  · rintro ⟨segment, among, nul⟩
    refine ⟨segment, List.mem_filter.2 ⟨among, ?_⟩, nul⟩
    rw [Bool.not_eq_true', Bool.eq_false_iff]
    intro idle
    obtain rfl | rfl := isIdle_iff.1 idle
    · exact absurd nul (by decide)
    · exact absurd nul (by decide)
  · rintro ⟨segment, among, nul⟩
    exact ⟨segment, List.mem_of_mem_filter among, nul⟩

/-- A relative path as seen from a directory that ends in slashes. -/
theorem join_slashes {p : Path} (relative : p.isAbsolute = false) (before : List Char) (n : Nat) :
    join ⟨String.ofList (before ++ List.replicate (n + 1) '/')⟩ p =
      ⟨String.ofList (before ++ '/' :: (List.replicate n '/' ++ p.text.toList))⟩ := by
  have slash : (before ++ List.replicate (n + 1) '/').getLast? = some '/' := by
    rw [List.replicate_succ', ← List.append_assoc, List.getLast?_concat]
  have joined : String.ofList (before ++ '/' :: (List.replicate n '/' ++ p.text.toList)) =
      String.ofList (before ++ List.replicate (n + 1) '/') ++ p.text := by
    rw [← List.cons_append, ← List.replicate_succ, ← List.append_assoc, String.ofList_append,
      String.ofList_toList]
  rw [join, relative, if_neg Bool.false_ne_true, joined]
  dsimp only
  rw [String.toList_ofList, if_pos (Or.inr slash), String.append_empty]

end Path

namespace FileSystem

variable {fs : FileSystem} {p q : Path} {start place : Location}

theorem step_idle_eq_ok_iff {segment : List Char} (idle : Path.isIdle segment = true) :
    fs.step start segment = .ok place ↔ fs.entry? start = some .directory ∧ place = start := by
  rw [step, bind_eq_ok_iff]
  simp only [idle, if_true, pure_eq_ok_iff]
  constructor
  · rintro ⟨_, directory, same⟩
    exact ⟨requireDirectory_eq_ok_iff.1 directory, same.symm⟩
  · rintro ⟨directory, same⟩
    exact ⟨(), requireDirectory_eq_ok_iff.2 directory, same.symm⟩

/-- Segments lead to the same place without those that say nothing, unless one of these is at the
end. Each segment asks for the directory where it starts, so the next one asks for the same. -/
theorem follow_significant {segments : List (List Char)} {last : List Char}
    (final : segments.getLast? = some last) (telling : Path.isIdle last = false) :
    fs.follow start segments = .ok place ↔
      fs.follow start (segments.filter (!Path.isIdle ·)) = .ok place := by
  induction segments generalizing start with
  | nil => exact nomatch final
  | cons segment rest ih =>
    cases rest with
    | nil =>
      obtain rfl : segment = last := Option.some.inj final
      rw [List.filter_cons_of_pos (by rw [telling]; rfl), List.filter_nil]
    | cons second rest =>
      have final' : (second :: rest).getLast? = some last := by simpa using final
      have others (next : Location) : fs.follow next (second :: rest) = .ok place ↔
          fs.follow next ((second :: rest).filter (!Path.isIdle ·)) = .ok place := ih final'
      rw [follow_cons_eq_ok_iff]
      cases idle : Path.isIdle segment with
      | false =>
        rw [List.filter_cons_of_pos (by rw [idle]; rfl), follow_cons_eq_ok_iff]
        exact exists_congr fun next => and_congr_right fun _ => others next
      | true =>
        rw [List.filter_cons_of_neg (by simp [idle]), ← others start]
        simp only [step_idle_eq_ok_iff idle]
        constructor
        · rintro ⟨_, ⟨_, rfl⟩, led⟩
          exact led
        · intro led
          obtain ⟨_, stepped, _⟩ := follow_cons_eq_ok_iff.1 led
          exact ⟨start, ⟨directory_of_step stepped, rfl⟩, led⟩

/-- A path under which a file is read does not end in a segment that says nothing. -/
theorem lastSegment_of_isFile (h : fs.isFile p = true) : Path.isIdle p.lastSegment = false := by
  obtain ⟨content, found⟩ := isFile_iff.1 h
  obtain ⟨place, led, file⟩ := exists_walk_of_read found
  obtain ⟨directory, isDirectory, stepped⟩ := exists_step_of_walk led
  rw [Bool.eq_false_iff]
  intro idle
  obtain ⟨_, rfl⟩ := (step_idle_eq_ok_iff idle).1 stepped
  exact nomatch file.symm.trans isDirectory

/-- A path that is too long leads to no file. -/
theorem not_isFile_of_long (long : maxPathBytes < Text.utf8Length p.text) :
    fs.isFile p = false := by
  rw [Bool.eq_false_iff]
  intro present
  obtain ⟨content, found⟩ := isFile_iff.1 present
  obtain ⟨place, led, _⟩ := exists_walk_of_read found
  exact Nat.not_le.2 long (checkPath_eq_ok_iff.1 (walk_eq_ok_iff.1 led).1).2.2

/-- A file is found under every spelling of its path that is not too long. -/
theorem isFile_of_same_components (same : q.components = p.components)
    (last : q.lastSegment = p.lastSegment) (short : Text.utf8Length q.text ≤ maxPathBytes)
    (h : fs.isFile p = true) : fs.isFile q = true := by
  have telling := lastSegment_of_isFile h
  have telling' : Path.isIdle q.lastSegment = false := by rw [last, telling]
  obtain ⟨content, found⟩ := isFile_iff.1 h
  obtain ⟨place, led, file⟩ := exists_walk_of_read found
  obtain ⟨checked, followed⟩ := walk_eq_ok_iff.1 led
  have segments : q.significant = p.significant := by
    rw [Path.significant_eq, Path.significant_eq, same]
  have noNul : '\x00' ∉ q.text.toList := by
    rw [Path.nul_mem_iff, segments, ← Path.nul_mem_iff]
    exact (checkPath_eq_ok_iff.1 checked).1
  have nonempty : q.text ≠ "" := by
    intro empty
    rw [Path.lastSegment, empty] at telling'
    exact absurd telling' (by decide)
  have origin : fs.origin q = fs.origin p := by
    have absolute : q.isAbsolute = p.isAbsolute := by
      rw [Bool.eq_iff_iff, Path.isAbsolute_iff, Path.isAbsolute_iff, same]
    rw [FileSystem.origin, FileSystem.origin, absolute]
  have led' : fs.walk q = .ok place := by
    refine walk_eq_ok_iff.2 ⟨checkPath_eq_ok_iff.2 ⟨noNul, nonempty, short⟩, ?_⟩
    have onward := (follow_significant p.getLast?_pieces telling).1 followed
    rw [follow_significant q.getLast?_pieces telling', origin, ← Path.significant, segments]
    exact onward
  exact isFile_iff.2 ⟨content, read_of_walk led' file⟩

end FileSystem

end BitmapFont
