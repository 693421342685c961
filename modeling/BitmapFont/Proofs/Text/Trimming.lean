import BitmapFont.Text.Blank
import Mathlib.Data.List.DropRight
import Mathlib.Data.List.TakeWhile

/-!
# Trimmed texts

What trimming leaves has no blank at its ends, and a text with none there stays as it is. Around a
character that is not blank, each side of a text is trimmed on its own.

## Main definitions

- `Text.Trimmed` — a text has no blank at either end
-/

namespace BitmapFont.Text

/-- Whether a text has no blank at either end. -/
def Trimmed (s : List Char) : Prop :=
  (∀ c ∈ s.head?, isBlank c = false) ∧ ∀ c ∈ s.getLast?, isBlank c = false

theorem trimLeft_of_head? {s : List Char} (h : ∀ c ∈ s.head?, isBlank c = false) :
    trimLeft s = s := by
  cases s with
  | nil => rfl
  | cons c rest =>
    have first : isBlank c = false := h c rfl
    exact List.dropWhile_cons_of_neg (by simp [first])

theorem trimRight_of_getLast? {s : List Char} (h : ∀ c ∈ s.getLast?, isBlank c = false) :
    trimRight s = s := by
  change s.rdropWhile isBlank = s
  rw [List.rdropWhile_eq_self_iff]
  intro nonempty
  have last := h (s.getLast nonempty) (List.getLast?_eq_some_getLast nonempty)
  simp [last]

theorem Trimmed.trim_eq {s : List Char} (h : Trimmed s) : trim s = s := by
  rw [trim, trimLeft_of_head? h.1, trimRight_of_getLast? h.2]

theorem trimmed_of_no_blank {s : List Char} (h : ∀ c ∈ s, isBlank c = false) : Trimmed s :=
  ⟨fun c first => h c (List.mem_of_head? first), fun c last => h c (List.mem_of_getLast? last)⟩

theorem trimRight_isPrefix (s : List Char) : trimRight s <+: s :=
  List.rdropWhile_prefix isBlank s

theorem trimmed_trim (s : List Char) : Trimmed (trim s) := by
  constructor
  · -- Trimming at the right leaves the first character where it is.
    intro c hc
    obtain ⟨dropped, whole⟩ := trimRight_isPrefix (trimLeft s)
    have same : (s.dropWhile isBlank).head? = some c := by
      change (trimLeft s).head? = some c
      rw [← whole, List.head?_append]
      exact Option.or_eq_some_iff.2 (Or.inl hc)
    have first := List.head?_dropWhile_not isBlank s
    rwa [same] at first
  · intro c hc
    have nonempty : trim s ≠ [] := by
      intro empty
      rw [empty] at hc
      exact nomatch hc
    have last := List.rdropWhile_last_not isBlank (trimLeft s) nonempty
    rw [List.getLast?_eq_some_getLast nonempty] at hc
    obtain rfl := Option.some.inj hc
    exact Bool.eq_false_iff.2 last

theorem mem_of_mem_trim {s : List Char} {c : Char} (h : c ∈ trim s) : c ∈ s :=
  (List.dropWhile_sublist isBlank).subset ((trimRight_isPrefix _).subset h)

/-- What is dropped from a list ends before the first member that is to be kept. -/
theorem dropWhile_append_cons {α : Type} {p : α → Bool} {a : α} (h : p a = false)
    (before after : List α) :
    (before ++ a :: after).dropWhile p = before.dropWhile p ++ a :: after := by
  rw [List.dropWhile_append]
  split
  case isTrue gone =>
    rw [List.isEmpty_iff.1 gone, List.dropWhile_cons_of_neg (by simp [h]), List.nil_append]
  case isFalse => rfl

theorem trimRight_append_cons {c : Char} (h : isBlank c = false) (kept after : List Char) :
    trimRight (kept ++ c :: after) = kept ++ c :: trimRight after := by
  have turned : (kept ++ c :: after).reverse = after.reverse ++ c :: kept.reverse := by simp
  rw [trimRight, turned, dropWhile_append_cons h]
  simp [trimRight]

/-- Around a character that is not blank, each side is trimmed on its own. -/
theorem trim_append_cons {c : Char} (h : isBlank c = false) (before after : List Char) :
    trim (before ++ c :: after) = trimLeft before ++ c :: trimRight after := by
  rw [trim, trimLeft, dropWhile_append_cons h, trimRight_append_cons h]
  rfl

/-- Blanks after a text do not matter to what trimming leaves of it. -/
theorem trim_append_of_blank {blanks : List Char} (h : ∀ c ∈ blanks, isBlank c = true)
    (s : List Char) : trim (s ++ blanks) = trim s := by
  have right (t : List Char) : trimRight (t ++ blanks) = trimRight t := by
    have back : ∀ c ∈ blanks.reverse, isBlank c = true := fun c hc => h c (List.mem_reverse.1 hc)
    rw [trimRight, trimRight, List.reverse_append, List.dropWhile_append_of_pos back]
  rw [trim, trim, trimLeft, trimLeft, List.dropWhile_append]
  split
  case isTrue gone => rw [List.isEmpty_iff.1 gone, List.dropWhile_eq_nil_iff.2 h]
  case isFalse => exact right _

/-- Nor do blanks before it. -/
theorem trim_blank_append {blanks : List Char} (h : ∀ c ∈ blanks, isBlank c = true)
    (s : List Char) : trim (blanks ++ s) = trim s := by
  rw [trim, trim, trimLeft, trimLeft, List.dropWhile_append_of_pos h]

/-- Blanks on both sides of a text without blanks are trimmed. -/
theorem trim_pad {left core right : List Char} (hleft : ∀ c ∈ left, isBlank c = true)
    (hright : ∀ c ∈ right, isBlank c = true) (hcore : ∀ c ∈ core, isBlank c = false) :
    trim (left ++ core ++ right) = core := by
  rw [trim_append_of_blank hright, trim_blank_append hleft, (trimmed_of_no_blank hcore).trim_eq]

end BitmapFont.Text
