import BitmapFont.Proofs.FileSystem.Spellings

/-!
# Files in a directory

A name that is put behind a directory adds one component to it. The parent of the resulting path is
the directory again, perhaps in another spelling. A file name is its stem and its extension, with a
dot between them.

## Main definitions

- `Path.IsName` — the texts that name something in a directory
- `Path.extension?` — the part of a file name behind its stem
-/

namespace BitmapFont.Path

/-- Whether a text names something in a directory. -/
structure IsName (name : List Char) : Prop where
  noSlash : '/' ∉ name
  notIdle : isIdle name = false
  notUp : name ≠ ['.', '.']

/-- The part of a file name after its last dot. A name without a dot, or with no dot but the one at
its start, has none. -/
def nameExtension? (name : List Char) : Option (List Char) :=
  if ['.'].intercalate (Text.pieces '.' name).dropLast = [] then none
  else (Text.pieces '.' name).getLast?

/-- The extension of the file that a path leads to. -/
def extension? (p : Path) : Option (List Char) :=
  p.fileName?.bind nameExtension?

variable {name before : List Char}

namespace IsName

theorem ne_nil (h : IsName name) : name ≠ [] := by
  rintro rfl
  exact nomatch h.notIdle

theorem segmentComponent?_eq (h : IsName name) :
    segmentComponent? name = some (.normal name) := by
  rw [segmentComponent?, h.notIdle, if_neg Bool.false_ne_true, if_neg h.notUp]

theorem pieces_eq (h : IsName name) : Text.pieces '/' name = [name] :=
  Text.pieces_eq_singleton h.noSlash

theorem split_eq (h : IsName name) : split name = ([], [name]) := by
  rw [split_of_plain, h.pieces_eq]
  · rintro rest rfl
    exact h.noSlash List.mem_cons_self
  · rintro rfl
    exact nomatch h.notIdle
  · rintro rest rfl
    exact h.noSlash (List.mem_cons_of_mem _ List.mem_cons_self)

theorem isAbsolute_eq (h : IsName name) : isAbsolute ⟨String.ofList name⟩ = false := by
  rw [isAbsolute, String.toList_ofList, decide_eq_false_iff_not]
  exact fun slash => h.noSlash (List.mem_of_head? slash)

theorem dropIdle_concat (h : IsName name) (segments : List (List Char)) :
    dropIdle (segments ++ [name]) = segments ++ [name] := by
  have telling : ¬ isIdle name = true := Bool.eq_false_iff.1 h.notIdle
  rw [dropIdle, List.reverse_concat, List.dropWhile_cons_of_neg telling, List.reverse_cons,
    List.reverse_reverse]

end IsName

/-! ### Components behind a slash -/

/-- The components of a text behind a slash follow those of the text before it. -/
theorem components_append_slash (h : before ≠ []) (after : List Char) :
    components ⟨String.ofList (before ++ '/' :: after)⟩ =
      components ⟨String.ofList before⟩ ++
        (Text.pieces '/' after).filterMap segmentComponent? := by
  simp only [components, String.toList_ofList, split_append_slash_of_ne_nil h,
    List.filterMap_append, List.append_assoc]

/-- A slash at the end adds no component. -/
theorem components_concat_slash (h : before ≠ []) :
    components ⟨String.ofList (before ++ ['/'])⟩ = components ⟨String.ofList before⟩ := by
  rw [components_append_slash h]
  exact List.append_nil _

/-- A name behind a slash is one more component. -/
theorem IsName.components_append_slash (h : IsName name) (before : List Char) :
    components ⟨String.ofList (before ++ '/' :: name)⟩ =
      components ⟨String.ofList (before ++ ['/'])⟩ ++ [.normal name] := by
  have last : (Text.pieces '/' name).filterMap segmentComponent? = [.normal name] := by
    rw [h.pieces_eq, List.filterMap_cons_some h.segmentComponent?_eq, List.filterMap_nil]
  by_cases start : before = []
  · subst start
    simp only [components, String.toList_ofList, List.nil_append, split, last]
    rfl
  · rw [Path.components_append_slash start, components_concat_slash start, last]

/-! ### Parents -/

/-- A text is made up of its start and its segments. -/
theorem split_join (s : List Char) : (split s).1 ++ ['/'].intercalate (split s).2 = s := by
  unfold split
  split
  case h_1 rest => exact congrArg _ (Text.intercalate_pieces '/' rest)
  case h_2 => rfl
  case h_3 rest => exact congrArg _ (Text.intercalate_pieces '/' ('/' :: rest))
  case h_4 => exact Text.intercalate_pieces '/' _

/-- The start of a path is its own path. -/
theorem components_lead (s : List Char) :
    components ⟨String.ofList (split s).1⟩ = (leadComponent? (split s).1).toList := by
  have start : (split s).1 = ['/'] ∨ (split s).1 = ['.'] ∨ (split s).1 = [] := by
    unfold split
    split <;> simp
  obtain lead | lead | lead := start
  · rw [lead]
    rfl
  · rw [lead]
    rfl
  · rw [lead]
    rfl

/-- Segments that say nothing are dropped from the end, and nothing else is. -/
theorem exists_append_idle (segments : List (List Char)) :
    ∃ idle, segments = dropIdle segments ++ idle ∧ ∀ segment ∈ idle, isIdle segment = true := by
  refine ⟨(segments.reverse.takeWhile isIdle).reverse, ?_, fun segment among => ?_⟩
  · rw [dropIdle, ← List.reverse_append, List.takeWhile_append_dropWhile, List.reverse_reverse]
  · exact List.mem_takeWhile_imp (List.mem_reverse.1 among)

theorem filterMap_idle {idle : List (List Char)} (h : ∀ segment ∈ idle, isIdle segment = true) :
    idle.filterMap segmentComponent? = [] :=
  List.filterMap_eq_nil_iff.2 fun segment among => segmentComponent?_of_idle (h segment among)

/-- A path has the same components without the segments at its end that say nothing. -/
theorem components_dropIdle (s : List Char) :
    components ⟨String.ofList ((split s).1 ++ ['/'].intercalate (dropIdle (split s).2))⟩ =
      components ⟨String.ofList s⟩ := by
  obtain ⟨idle, segments, silent⟩ := exists_append_idle (split s).2
  have nothing := filterMap_idle silent
  have joined := split_join s
  generalize dropIdle (split s).2 = kept at segments ⊢
  by_cases noneKept : kept = []
  · -- Only the start is left.
    rw [noneKept, List.nil_append] at segments
    rw [noneKept, List.intercalate_nil, List.append_nil, components_lead, components,
      String.toList_ofList]
    dsimp only
    rw [segments, nothing, List.append_nil]
  · by_cases noneDropped : idle = []
    · rw [noneDropped, List.append_nil] at segments
      rw [← segments, joined]
    · rw [segments, Text.intercalate_append noneKept noneDropped, ← List.append_assoc] at joined
      have nonempty : (split s).1 ++ ['/'].intercalate kept ≠ [] := by
        intro empty
        rw [empty, List.nil_append] at joined
        rw [← joined] at empty
        exact absurd empty (List.cons_ne_nil _ _)
      have noSlash : ∀ segment ∈ idle, '/' ∉ segment := by
        intro segment among
        obtain rfl | rfl := isIdle_iff.1 (silent segment among)
        · exact List.not_mem_nil
        · decide
      conv => rhs; rw [← joined]
      rw [components_append_slash nonempty, Text.pieces_intercalate noSlash noneDropped, nothing,
        List.append_nil]

theorem IsName.parent?_of_split (h : IsName name) {s lead : List Char}
    {segments : List (List Char)} (parts : split s = (lead, segments ++ [name])) :
    parent? ⟨String.ofList s⟩ =
      some ⟨String.ofList (lead ++ ['/'].intercalate (dropIdle segments))⟩ := by
  unfold parent?
  dsimp only
  rw [String.toList_ofList, parts]
  dsimp only
  rw [h.dropIdle_concat]
  split
  case h_1 empty => exact absurd empty (List.concat_ne_nil name segments)
  case h_2 => rw [List.dropLast_concat]

/-- The parent of a name behind a slash is what is before the slash. -/
theorem IsName.exists_parent?_append_slash (h : IsName name) (before : List Char) :
    ∃ q, parent? ⟨String.ofList (before ++ '/' :: name)⟩ = some q ∧
      q.components = components ⟨String.ofList (before ++ ['/'])⟩ := by
  by_cases start : before = []
  · subst start
    have parts : split ('/' :: name) = (['/'], [] ++ [name]) := by
      rw [split, h.pieces_eq, List.nil_append]
    exact ⟨_, h.parent?_of_split parts, rfl⟩
  · have parts := split_append_slash_of_ne_nil start name
    rw [h.pieces_eq] at parts
    refine ⟨_, h.parent?_of_split parts, ?_⟩
    rw [components_dropIdle, components_concat_slash start]

theorem IsName.parent?_eq (h : IsName name) : parent? ⟨String.ofList name⟩ = some ⟨""⟩ := by
  have parts : split name = ([], [] ++ [name]) := h.split_eq
  exact h.parent?_of_split parts

/-! ### Names in a directory -/

namespace IsName

theorem join_empty (h : IsName name) :
    join ⟨""⟩ ⟨String.ofList name⟩ = ⟨String.ofList name⟩ := by
  simp [join, h.isAbsolute_eq]

/-- A name as seen from a directory is behind a slash there, unless the directory is the empty
path. -/
theorem join_cases (h : IsName name) (base : Path) :
    base = ⟨""⟩ ∨
      ∃ before, base.components = components ⟨String.ofList (before ++ ['/'])⟩ ∧
        base.join ⟨String.ofList name⟩ = ⟨String.ofList (before ++ '/' :: name)⟩ := by
  obtain ⟨text⟩ := base
  obtain ⟨s, rfl⟩ : ∃ s, text = String.ofList s := ⟨text.toList, String.ofList_toList.symm⟩
  by_cases empty : s = []
  · subst empty
    exact Or.inl rfl
  · refine Or.inr ?_
    rw [join, h.isAbsolute_eq, if_neg Bool.false_ne_true]
    dsimp only
    rw [String.toList_ofList]
    by_cases slash : s.getLast? = some '/'
    · obtain ⟨before, rfl⟩ := List.getLast?_eq_some_iff.1 slash
      refine ⟨before, rfl, ?_⟩
      rw [if_pos (Or.inr slash), String.append_empty, ← String.ofList_append, List.append_assoc,
        List.singleton_append]
    · refine ⟨s, (components_concat_slash empty).symm, ?_⟩
      rw [if_neg (not_or.2 ⟨empty, slash⟩), show "/" = String.ofList ['/'] from rfl,
        ← String.ofList_append, ← String.ofList_append, List.append_assoc, List.singleton_append]

/-- A name in a directory is one component more than those of the directory. -/
theorem components_join (h : IsName name) (base : Path) :
    (base.join ⟨String.ofList name⟩).components = base.components ++ [.normal name] := by
  obtain rfl | ⟨before, directory, joined⟩ := h.join_cases base
  · rw [h.join_empty, components, String.toList_ofList, h.split_eq]
    dsimp only
    rw [List.filterMap_cons_some h.segmentComponent?_eq, List.filterMap_nil]
    rfl
  · rw [joined, directory, h.components_append_slash]

/-- The parent of a name in a directory is the directory. -/
theorem exists_parent?_join (h : IsName name) (base : Path) :
    ∃ q, (base.join ⟨String.ofList name⟩).parent? = some q ∧ q.components = base.components := by
  obtain rfl | ⟨before, directory, joined⟩ := h.join_cases base
  · rw [h.join_empty]
    exact ⟨_, h.parent?_eq, rfl⟩
  · rw [joined, directory]
    exact h.exists_parent?_append_slash before

theorem parent?_join_empty (h : IsName name) :
    (join ⟨""⟩ ⟨String.ofList name⟩).parent? = some ⟨""⟩ := by
  rw [h.join_empty, h.parent?_eq]

theorem fileName?_join (h : IsName name) (base : Path) :
    (base.join ⟨String.ofList name⟩).fileName? = some name := by
  rw [fileName?, h.components_join, List.getLast?_concat]

end IsName

theorem fileName?_eq_some_iff {p : Path} :
    p.fileName? = some name ↔ p.components.getLast? = some (.normal name) := by
  unfold fileName?
  split
  case h_1 other same => simp [same]
  case h_2 none =>
    constructor
    · exact fun found => nomatch found
    · exact fun same => absurd same (none name)

/-- A segment leads up or to a name. -/
theorem segment_cases {s : List Char} {c : PathComponent}
    (h : c ∈ (Text.pieces '/' s).filterMap segmentComponent?) :
    c = .parent ∨ ∃ name, c = .normal name ∧ IsName name := by
  obtain ⟨segment, piece, meant⟩ := List.mem_filterMap.1 h
  unfold segmentComponent? at meant
  split at meant
  case isTrue => exact nomatch meant
  case isFalse telling =>
    split at meant
    case isTrue => exact Or.inl (Option.some.inj meant).symm
    case isFalse notUp =>
      have noSlash := Text.separator_not_mem_of_mem_pieces piece
      exact Or.inr ⟨segment, (Option.some.inj meant).symm, noSlash, Bool.eq_false_iff.2 telling,
        notUp⟩

theorem lead_cases {lead : List Char} {c : PathComponent}
    (h : c ∈ (leadComponent? lead).toList) : c = .root ∨ c = .current := by
  unfold leadComponent? at h
  split at h
  · exact Or.inl (List.mem_singleton.1 h)
  · exact Or.inr (List.mem_singleton.1 h)
  · exact absurd h List.not_mem_nil

/-- A file name is a name. -/
theorem isName_of_fileName? {p : Path} (h : p.fileName? = some name) : IsName name := by
  have last := List.mem_of_getLast? (fileName?_eq_some_iff.1 h)
  rw [components_eq, List.mem_append] at last
  obtain start | segment := last
  · obtain root | current := lead_cases start
    · exact nomatch root
    · exact nomatch current
  · obtain up | ⟨other, same, isName⟩ := segment_cases segment
    · exact nomatch up
    · rw [PathComponent.normal.inj same]
      exact isName

/-! ### Stems and extensions -/

theorem stem_isPrefix (name : List Char) : stem name <+: name := by
  have pieces := Text.pieces_ne_nil '.' name
  unfold stem
  dsimp only
  split
  case isTrue => exact List.prefix_rfl
  case isFalse =>
    by_cases single : (Text.pieces '.' name).dropLast = []
    · rw [single]
      exact List.nil_prefix
    · have joined := Text.intercalate_pieces '.' name
      rw [← List.dropLast_append_getLast pieces,
        Text.intercalate_append single (List.cons_ne_nil _ _)] at joined
      exact ⟨_, joined⟩

theorem stem_ne_nil (h : name ≠ []) : stem name ≠ [] := by
  unfold stem
  dsimp only
  split
  case isTrue => exact h
  case isFalse nonempty => exact nonempty

/-- A text before a dot is the stem of a file name whose extension is behind the dot. -/
theorem stem_append_dot {s extension : List Char} (h : s ≠ []) (noDot : '.' ∉ extension) :
    stem (s ++ '.' :: extension) = s ∧ nameExtension? (s ++ '.' :: extension) = some extension := by
  have pieces : Text.pieces '.' (s ++ '.' :: extension) = Text.pieces '.' s ++ [extension] := by
    rw [Text.pieces_append_separator, Text.pieces_eq_singleton noDot]
  constructor
  · rw [stem, pieces, List.dropLast_concat, Text.intercalate_pieces, if_neg h]
  · rw [nameExtension?, pieces, List.dropLast_concat, Text.intercalate_pieces, if_neg h,
      List.getLast?_concat]

end BitmapFont.Path
