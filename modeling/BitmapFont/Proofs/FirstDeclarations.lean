import BitmapFont.Proofs.Directives
import Mathlib.Data.String.Basic

/-!
# First declarations

The value of a key in a text is the one on the first line that declares the key. What other lines
say, and whether there is anything to say about them, does not matter to it.

## Main definitions

- `Directives.lineKey?` — the text before the first equals sign of a line
- `Directives.lineValue?` — the value that a line declares for a key
-/

namespace BitmapFont.Directives

/-- The trimmed text before the first equals sign of a line, if it has one. -/
def lineKey? (line : List Char) : Option (List Char) :=
  (Text.cut? '=' line).map fun parts => Text.trim parts.1

/-- The value that a line declares for a key. -/
def lineValue? (key : String) (line : List Char) : Option String :=
  match statement line with
  | .directive declared value =>
    if String.ofList declared = key then some (String.ofList value) else none
  | _ => none

theorem lineKey?_eq_some_iff {line key : List Char} :
    lineKey? line = some key ↔
      ∃ before after, '=' ∉ before ∧ line = before ++ '=' :: after ∧ Text.trim before = key := by
  simp only [lineKey?, Option.map_eq_some_iff, Prod.exists, Text.cut?_eq_some_iff, and_assoc]

theorem lineKey?_eq_none_iff {line : List Char} : lineKey? line = none ↔ '=' ∉ line := by
  rw [lineKey?, Option.map_eq_none_iff, ← Text.isSome_cut?, Option.not_isSome_iff_eq_none]

theorem lineValue?_eq_some_iff {key value : String} {line : List Char} :
    lineValue? key line = some value ↔ statement line = .directive key.toList value.toList := by
  unfold lineValue?
  split
  case h_1 declared found said =>
    rw [said, Statement.directive.injEq, ← String.ofList_eq, ← String.ofList_eq]
    by_cases same : String.ofList declared = key
    · rw [if_pos same, Option.some.injEq]
      exact ⟨fun h => ⟨same, h⟩, fun h => h.2⟩
    · rw [if_neg same]
      exact ⟨fun h => (nomatch h), fun h => absurd h.1 same⟩
  case h_2 other => exact ⟨fun h => (nomatch h), fun h => absurd h (other _ _)⟩

theorem lineKey?_of_lineValue? {key value : String} {line : List Char}
    (h : lineValue? key line = some value) : lineKey? line = some key.toList := by
  obtain ⟨before, after, noEquals, same, trimmed, -⟩ :=
    statement_eq_directive_iff.1 (lineValue?_eq_some_iff.1 h)
  exact lineKey?_eq_some_iff.2 ⟨before, after, noEquals, same, trimmed⟩

/-- A line with a key gives it a value, unless the key is empty or looks like a comment. -/
theorem exists_lineValue? {key : String} {line : List Char} (h : lineKey? line = some key.toList)
    (nonempty : key.toList ≠ []) (noComment : ¬ ['/', '/'] <+: key.toList) :
    ∃ value, lineValue? key line = some value := by
  obtain ⟨before, after, noEquals, same, trimmed⟩ := lineKey?_eq_some_iff.1 h
  refine ⟨String.ofList (Text.trim after), lineValue?_eq_some_iff.2 ?_⟩
  rw [statement_eq_directive_iff, String.toList_ofList]
  exact ⟨before, after, noEquals, same, trimmed, rfl, nonempty, noComment⟩

theorem lineValue?_of_lineKey?_ne {key : String} {line : List Char}
    (h : lineKey? line ≠ some key.toList) : lineValue? key line = none := by
  rw [Option.eq_none_iff_forall_ne_some]
  intro value found
  exact h (lineKey?_of_lineValue? found)

/-- Blanks at the end of a line do not matter to the values that it declares. -/
theorem lineValue?_append_of_blank {blanks : List Char} (blank : ∀ c ∈ blanks, Text.isBlank c = true)
    (key : String) (line : List Char) :
    lineValue? key (line ++ blanks) = lineValue? key line := by
  have noEquals : '=' ∉ blanks := by
    intro equals
    exact Bool.false_ne_true (isBlank_equals.symm.trans (blank '=' equals))
  by_cases equals : '=' ∈ line
  · obtain ⟨before, after, rfl, first⟩ := List.eq_append_cons_of_mem equals
    have cut (rest : List Char) : Text.cut? '=' (before ++ '=' :: rest) = some (before, rest) :=
      Text.cut?_eq_some_iff.2 ⟨first, rfl⟩
    have value : Text.trim (after ++ blanks) = Text.trim after :=
      Text.trim_append_of_blank blank after
    have whole : Text.trim (before ++ '=' :: (after ++ blanks)) =
        Text.trim (before ++ '=' :: after) := by
      rw [← List.cons_append, ← List.append_assoc]
      exact Text.trim_append_of_blank blank _
    simp only [lineValue?, statement, List.append_assoc, List.cons_append, cut, value, whole]
  · have absent : '=' ∉ line ++ blanks := by simp [equals, noEquals]
    have none (s : List Char) (h : '=' ∉ s) : lineValue? key s = none := by
      apply lineValue?_of_lineKey?_ne
      rw [lineKey?_eq_none_iff.2 h]
      exact (Option.some_ne_none _).symm
    rw [none _ absent, none _ equals]

theorem get?_of_entries_append {m m' : Directives} {key value : String}
    (h : m'.entries = m.entries ++ [(key, value)]) (other : String) :
    m'.get? other = (m.get? other).or (if key = other then some value else none) := by
  rw [get?, get?, h, List.lookup_append, List.lookup_cons, List.lookup_nil]
  by_cases same : key = other
  · subst same
    rw [if_pos rfl, beq_self_eq_true]
  · have different : (other == key) = false := beq_eq_false_iff_ne.2 (Ne.symm same)
    rw [if_neg same, different]

/-- A line gives a value to its key, unless the key has one. -/
theorem get?_scanLine (m : Directives) (n : Nat) (line : List Char) (key : String) :
    (m.scanLine n line).1.get? key = (m.get? key).or (lineValue? key line) := by
  unfold scanLine lineValue?
  cases said : statement line with
  | nothing => exact Option.or_none.symm
  | unparsed => exact Option.or_none.symm
  | missingKey => exact Option.or_none.symm
  | directive declared value =>
    dsimp only
    split
    case h_1 repeated =>
      -- The key of the line has a value, so the line gives none to any key.
      by_cases same : String.ofList declared = key
      · subst same
        have taken : m.get? (String.ofList declared) ≠ none := by
          intro free
          rw [insert?, dif_pos free] at repeated
          exact nomatch repeated
        obtain ⟨old, found⟩ := Option.ne_none_iff_exists'.1 taken
        rw [found, Option.some_or]
      · rw [if_neg same, Option.or_none]
    case h_2 extended inserted => exact get?_of_entries_append (entries_of_insert? inserted) key

/-- Of several lines for a key the first one gives it a value, unless the key has one. -/
theorem get?_scan (m : Directives) (lines : List (Nat × List Char)) (key : String) :
    (scan m lines).1.get? key =
      (m.get? key).or ((lines.map (·.2)).findSome? (lineValue? key)) := by
  induction lines generalizing m with
  | nil => exact Option.or_none.symm
  | cons numbered rest ih =>
    obtain ⟨n, line⟩ := numbered
    rw [List.map_cons, List.findSome?_cons]
    change (scan (m.scanLine n line).1 rest).1.get? key = _
    rw [ih, get?_scanLine, Option.or_assoc]
    congr 1
    cases lineValue? key line with
    | none => rfl
    | some value => rfl

/-- The value of a key in a text is the one on the first line that declares it. -/
theorem get?_ofText (text : String) (key : String) :
    (ofText text).1.get? key = (Text.lines text.toList).findSome? (lineValue? key) := by
  rw [ofText, get?_scan, Text.map_snd_numbered]
  rfl

end BitmapFont.Directives
