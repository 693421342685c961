/-!
# Lines and pieces

Text is cut at single separator characters: into all its pieces, into the two parts around the
first separator, or into lines.

## Main definitions

- `pieces` — the parts of a text between the occurrences of a separator
- `cut?` — the parts of a text around the first occurrence of a separator
- `lines` — the lines of a text, which end in a line feed or in a carriage return and a line feed
-/

namespace BitmapFont.Text

/-- The parts of a text between the occurrences of a separator. There is one more part than there
are separators. -/
def pieces (separator : Char) (s : List Char) : List (List Char) :=
  s.foldr (fun c parts => if c = separator then [] :: parts else parts.modifyHead (c :: ·)) [[]]

@[simp] theorem pieces_nil (separator : Char) : pieces separator [] = [[]] := rfl

theorem pieces_cons (separator c : Char) (s : List Char) :
    pieces separator (c :: s) =
      if c = separator then [] :: pieces separator s
      else (pieces separator s).modifyHead (c :: ·) := rfl

theorem pieces_ne_nil (separator : Char) (s : List Char) : pieces separator s ≠ [] := by
  induction s with
  | nil => simp
  | cons c r ih =>
    rw [pieces_cons]
    split
    · simp
    · simpa using ih

/-- A text without the separator is its own single piece. -/
theorem pieces_eq_singleton {separator : Char} {s : List Char} (h : separator ∉ s) :
    pieces separator s = [s] := by
  induction s with
  | nil => rfl
  | cons c r ih =>
    simp only [List.mem_cons, not_or] at h
    rw [pieces_cons, if_neg (Ne.symm h.1), ih h.2]
    rfl

/-- The text before the first separator is the first piece. -/
theorem pieces_append_cons {separator : Char} {s : List Char} (h : separator ∉ s)
    (rest : List Char) :
    pieces separator (s ++ separator :: rest) = s :: pieces separator rest := by
  induction s with
  | nil => simp [pieces_cons]
  | cons c r ih =>
    simp only [List.mem_cons, not_or] at h
    rw [List.cons_append, pieces_cons, if_neg (Ne.symm h.1), ih h.2]
    rfl

/-- The parts of a text before and after the first separator, if it has one. -/
def cut? (separator : Char) (s : List Char) : Option (List Char × List Char) :=
  match s.dropWhile (· != separator) with
  | [] => none
  | _ :: after => some (s.takeWhile (· != separator), after)

/-- A line without the carriage return that precedes its line feed. -/
def dropReturn (line : List Char) : List Char :=
  if line.getLast? = some '\r' then line.dropLast else line

/-- The lines of a text. A line ends in a line feed, before which one carriage return is dropped;
text after the last line feed is a line as it stands, unless it is empty. -/
def lines (s : List Char) : List (List Char) :=
  let parts := pieces '\n' s
  let last := parts.getLast (pieces_ne_nil '\n' s)
  parts.dropLast.map dropReturn ++ if last = [] then [] else [last]

@[simp] theorem lines_nil : lines [] = [] := rfl

/-- Text without a line feed is a single line. -/
theorem lines_eq_singleton {s : List Char} (h : '\n' ∉ s) (hs : s ≠ []) : lines s = [s] := by
  simp [lines, pieces_eq_singleton h, hs]

/-- The text before the first line feed is the first line. -/
theorem lines_append_cons {s : List Char} (h : '\n' ∉ s) (rest : List Char) :
    lines (s ++ '\n' :: rest) = dropReturn s :: lines rest := by
  simp only [lines, pieces_append_cons h]
  rw [List.getLast_cons (pieces_ne_nil '\n' rest),
    List.dropLast_cons_of_ne_nil (pieces_ne_nil '\n' rest)]
  rfl

/-- The members of a list with their places, which count from one. -/
def numbered {α : Type} (items : List α) : List (Nat × α) :=
  items.zipIdx.map fun (item, place) => (place + 1, item)

end BitmapFont.Text
