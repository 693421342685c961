import BitmapFont.Text.Lines
import Mathlib.Data.List.Basic
import Mathlib.Data.List.TakeWhile

/-!
# Cutting text

Laws of the ways to cut a text: around its first separator, into all its pieces, and into lines.
-/

namespace BitmapFont.Text

/-- The members of a list around the first occurrence of a value. -/
theorem takeWhile_dropWhile_ne_iff {α : Type} [BEq α] [LawfulBEq α] {a b : α}
    {s before after : List α} :
    s.takeWhile (· != a) = before ∧ s.dropWhile (· != a) = b :: after ↔
      b = a ∧ a ∉ before ∧ s = before ++ a :: after := by
  induction s generalizing before with
  | nil => simp
  | cons c s ih =>
    by_cases same : c = a
    · subst same
      cases before with
      | nil => simp [eq_comm]
      | cons d before =>
        simp only [bne_self_eq_false, Bool.false_eq_true, not_false_eq_true,
          List.takeWhile_cons_of_neg, reduceCtorEq, false_and, List.mem_cons, not_or,
          List.cons_append, List.cons.injEq, false_iff, not_and]
        rintro _ ⟨other, _⟩ first
        exact absurd first other
    · have keep : (c != a) = true := by simpa using same
      rw [List.takeWhile_cons_of_pos (p := (· != a)) keep,
        List.dropWhile_cons_of_pos (p := (· != a)) keep]
      cases before with
      | nil => simp [same]
      | cons d before =>
        simp only [List.cons.injEq, List.mem_cons, not_or, List.cons_append, and_assoc, ih]
        constructor
        · rintro ⟨rfl, rfl, absent, rfl⟩
          exact ⟨rfl, Ne.symm same, absent, rfl, rfl⟩
        · rintro ⟨rfl, _, absent, rfl, rfl⟩
          exact ⟨rfl, rfl, absent, rfl⟩

/-- The two parts of a cut text hold all of it but the first separator. -/
theorem cut?_eq_some_iff {separator : Char} {s before after : List Char} :
    cut? separator s = some (before, after) ↔
      separator ∉ before ∧ s = before ++ separator :: after := by
  have parts : cut? separator s = some (before, after) ↔
      ∃ b, s.takeWhile (· != separator) = before ∧
        s.dropWhile (· != separator) = b :: after := by
    unfold cut?
    split
    case h_1 none => simp [none]
    case h_2 b rest some => simp [some]
  rw [parts]
  constructor
  · rintro ⟨b, cut⟩
    exact (takeWhile_dropWhile_ne_iff.1 cut).2
  · rintro ⟨absent, same⟩
    exact ⟨separator, takeWhile_dropWhile_ne_iff.2 ⟨rfl, absent, same⟩⟩

theorem isSome_cut? {separator : Char} {s : List Char} :
    (cut? separator s).isSome ↔ separator ∈ s := by
  constructor
  · intro some
    obtain ⟨⟨before, after⟩, h⟩ := Option.isSome_iff_exists.1 some
    rw [(cut?_eq_some_iff.1 h).2]
    simp
  · intro mem
    obtain ⟨before, after, same, absent⟩ := List.eq_append_cons_of_mem mem
    rw [cut?_eq_some_iff.2 ⟨absent, same⟩]
    rfl

/-- The pieces of joined texts that have no separator are these texts. -/
theorem pieces_intercalate {separator : Char} {parts : List (List Char)}
    (absent : ∀ part ∈ parts, separator ∉ part) (nonempty : parts ≠ []) :
    pieces separator ([separator].intercalate parts) = parts := by
  induction parts with
  | nil => exact absurd rfl nonempty
  | cons part rest ih =>
    have first : separator ∉ part := absent part (by simp)
    by_cases last : rest = []
    · subst last
      rw [List.intercalate_singleton, pieces_eq_singleton first]
    · have others := ih (fun p hp => absent p (by simp [hp])) last
      rw [List.intercalate_cons_of_ne_nil last, List.append_assoc, List.singleton_append,
        pieces_append_cons first, others]

/-- A text is its pieces joined again. -/
theorem intercalate_pieces (separator : Char) (s : List Char) :
    [separator].intercalate (pieces separator s) = s := by
  induction s with
  | nil => rfl
  | cons c rest ih =>
    have nonempty := pieces_ne_nil separator rest
    rw [pieces_cons]
    split
    case isTrue same =>
      rw [List.intercalate_cons_of_ne_nil nonempty, ih, same]
      rfl
    case isFalse =>
      obtain ⟨first, others, split⟩ := List.exists_cons_of_ne_nil nonempty
      rw [split] at ih ⊢
      rw [List.modifyHead_cons, List.intercalate_cons_cons_left, ih]

theorem intercalate_append {separator : Char} {parts more : List (List Char)}
    (first : parts ≠ []) (second : more ≠ []) :
    [separator].intercalate (parts ++ more) =
      [separator].intercalate parts ++ separator :: [separator].intercalate more := by
  induction parts with
  | nil => exact absurd rfl first
  | cons part rest ih =>
    by_cases last : rest = []
    · subst last
      rw [List.singleton_append, List.intercalate_cons_of_ne_nil second,
        List.intercalate_singleton, List.append_assoc, List.singleton_append]
    · have both : rest ++ more ≠ [] := List.append_ne_nil_of_left_ne_nil last more
      rw [List.cons_append, List.intercalate_cons_of_ne_nil both, ih last,
        List.intercalate_cons_of_ne_nil last, ← List.append_assoc]

/-- A separator parts the pieces before it from those after it. -/
theorem pieces_append_separator (separator : Char) (before after : List Char) :
    pieces separator (before ++ separator :: after) =
      pieces separator before ++ pieces separator after := by
  induction before with
  | nil => simp [pieces_cons]
  | cons c rest ih =>
    rw [List.cons_append, pieces_cons, pieces_cons, ih]
    split
    · rfl
    · obtain ⟨first, others, split⟩ := List.exists_cons_of_ne_nil (pieces_ne_nil separator rest)
      rw [split]
      rfl

theorem separator_not_mem_of_mem_pieces {separator : Char} {s part : List Char}
    (h : part ∈ pieces separator s) : separator ∉ part := by
  induction s generalizing part with
  | nil =>
    obtain rfl : part = [] := by simpa using h
    exact List.not_mem_nil
  | cons c rest ih =>
    rw [pieces_cons] at h
    split at h
    case isTrue =>
      obtain rfl | later := List.mem_cons.1 h
      · exact List.not_mem_nil
      · exact ih later
    case isFalse different =>
      obtain ⟨first, others, split⟩ := List.exists_cons_of_ne_nil (pieces_ne_nil separator rest)
      rw [split] at h ih
      obtain rfl | later := List.mem_cons.1 h
      · have absent : separator ∉ first := ih List.mem_cons_self
        simpa [Ne.symm different] using absent
      · exact ih (List.mem_cons_of_mem _ later)

/-- Every character but the separator is in one of the pieces. -/
theorem mem_iff_of_pieces {separator c : Char} (different : c ≠ separator) (s : List Char) :
    c ∈ s ↔ ∃ part ∈ pieces separator s, c ∈ part := by
  induction s with
  | nil => simp
  | cons first rest ih =>
    rw [List.mem_cons, ih, pieces_cons]
    split
    case isTrue same => simp [same, different]
    case isFalse =>
      obtain ⟨part, parts, split⟩ := List.exists_cons_of_ne_nil (pieces_ne_nil separator rest)
      rw [split, List.modifyHead_cons, List.exists_mem_cons_iff, List.exists_mem_cons_iff,
        List.mem_cons, or_assoc]

theorem pieces_replicate_separator (separator : Char) (n : Nat) (s : List Char) :
    pieces separator (List.replicate n separator ++ s) =
      List.replicate n [] ++ pieces separator s := by
  induction n with
  | zero => rfl
  | succ n ih =>
    rw [List.replicate_succ, List.cons_append, pieces_cons, if_pos rfl, ih]
    rfl

theorem lineFeed_not_mem_of_mem_lines {s line : List Char} (h : line ∈ lines s) :
    '\n' ∉ line := by
  obtain ended | last := List.mem_append.1 h
  · obtain ⟨part, hpart, rfl⟩ := List.mem_map.1 ended
    have absent := separator_not_mem_of_mem_pieces (List.dropLast_subset _ hpart)
    unfold dropReturn
    split
    · exact fun feed => absent (List.dropLast_subset _ feed)
    · exact absent
  · split at last
    · exact absurd last List.not_mem_nil
    · obtain rfl := List.mem_singleton.1 last
      exact separator_not_mem_of_mem_pieces (List.getLast_mem _)

/-- The lines of texts that end in a line feed each are these texts. -/
theorem lines_flatMap_lineFeed {texts : List (List Char)} (single : ∀ text ∈ texts, '\n' ∉ text) :
    lines (texts.flatMap (· ++ ['\n'])) = texts.map dropReturn := by
  induction texts with
  | nil => rfl
  | cons text rest ih =>
    obtain ⟨first, others⟩ := List.forall_mem_cons.1 single
    rw [List.flatMap_cons, List.append_assoc, List.singleton_append, lines_append_cons first,
      ih others, List.map_cons]

/-- A line feed ends the lines of the text before it. -/
theorem lines_append_lineFeed (s t : List Char) :
    lines (s ++ '\n' :: t) = (pieces '\n' s).map dropReturn ++ lines t := by
  have rest := pieces_ne_nil '\n' t
  simp only [lines, pieces_append_separator]
  rw [List.getLast_append_of_ne_nil _ rest, List.dropLast_append_of_ne_nil rest, List.map_append,
    List.append_assoc]

/-- Two texts have the lines of the first and those of the second, unless the last line of the first
goes on in the second. -/
theorem lines_append {s : List Char} (ends : s = [] ∨ s.getLast? = some '\n') (t : List Char) :
    lines (s ++ t) = lines s ++ lines t := by
  obtain rfl | feed := ends
  · rfl
  · obtain ⟨before, rfl⟩ := List.getLast?_eq_some_iff.1 feed
    rw [List.append_assoc, List.singleton_append, lines_append_lineFeed, lines_append_lineFeed,
      lines_nil, List.append_nil]

theorem lines_eq_of_pieces {s last : List Char} {ended : List (List Char)}
    (h : pieces '\n' s = ended ++ [last]) :
    lines s = ended.map dropReturn ++ if last = [] then [] else [last] := by
  simp only [lines, h, List.dropLast_concat, List.getLast_concat]

/-- A line is the piece there, without a carriage return unless it is the last piece, which is left
out if it is empty. -/
theorem getElem?_lines (s : List Char) (i : Nat) :
    (lines s)[i]? =
      if i + 1 < (pieces '\n' s).length then (pieces '\n' s)[i]?.map dropReturn
      else (pieces '\n' s)[i]?.filter (· ≠ []) := by
  obtain ⟨ended, last, same⟩ : ∃ ended last, pieces '\n' s = ended ++ [last] :=
    ⟨_, _, (List.dropLast_concat_getLast (pieces_ne_nil '\n' s)).symm⟩
  rw [lines_eq_of_pieces same, same, List.length_append, List.length_singleton]
  by_cases before : i < ended.length
  · rw [List.getElem?_append_left (by simpa using before), List.getElem?_map,
      List.getElem?_append_left before, if_pos (Nat.succ_lt_succ before)]
  · have reached := Nat.not_lt.1 before
    have atLast : ¬ i + 1 < ended.length + 1 := by omega
    rw [if_neg atLast, List.getElem?_append_right (by simpa using reached),
      List.getElem?_append_right reached, List.length_map]
    generalize i - ended.length = k
    by_cases empty : last = []
    · subst empty
      rw [if_pos rfl]
      cases k <;> rfl
    · rw [if_neg empty]
      cases k <;> simp [empty, Option.filter]

/-- A line is told by the piece there and by the number of pieces. -/
theorem getElem?_lines_congr {s t : List Char} {i : Nat}
    (count : (pieces '\n' t).length = (pieces '\n' s).length)
    (same : (pieces '\n' t)[i]? = (pieces '\n' s)[i]?) : (lines t)[i]? = (lines s)[i]? := by
  rw [getElem?_lines, getElem?_lines, count, same]

theorem numbered_append {α : Type} (items more : List α) :
    numbered (items ++ more) =
      numbered items ++ (numbered more).map (Prod.map (· + items.length) id) := by
  have shifted := @List.zipIdx_eq_map_add _ more items.length
  rw [numbered, List.zipIdx_append, List.map_append, Nat.zero_add, shifted]
  simp only [numbered, List.map_map]
  congr 1
  refine List.map_congr_left fun item _ => ?_
  simp only [Function.comp_apply, Prod.map_apply, id_eq]
  rw [Nat.add_comm items.length, Nat.add_right_comm]

theorem numbered_map {α β : Type} (f : α → β) (items : List α) :
    numbered (items.map f) = (numbered items).map (Prod.map id f) := by
  simp [numbered, List.zipIdx_map, List.map_map, Function.comp_def]

theorem map_snd_numbered {α : Type} (items : List α) : (numbered items).map (·.2) = items := by
  simp [numbered, List.map_map, Function.comp_def]

theorem dropReturn_concat (line : List Char) : dropReturn (line ++ ['\r']) = line := by
  simp [dropReturn]

theorem dropReturn_of_getLast?_ne {line : List Char} (h : line.getLast? ≠ some '\r') :
    dropReturn line = line :=
  if_neg h

/-- Only the end of a line matters to the carriage return there. -/
theorem dropReturn_append (line : List Char) {tail : List Char} (h : tail ≠ []) :
    dropReturn (line ++ tail) = line ++ dropReturn tail := by
  have last : (line ++ tail).getLast? = tail.getLast? := by
    rw [List.getLast?_append, List.getLast?_eq_some_getLast h, Option.some_or]
  simp only [dropReturn, last]
  split
  · exact List.dropLast_append_of_ne_nil h
  · rfl

end BitmapFont.Text
