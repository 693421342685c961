import BitmapFont.Project.Resolution
import BitmapFont.Proofs.FirstDeclarations
import Mathlib.Logic.Relation

/-!
# Edits of project files

A project is told by the first line for each of its keys. So the lines of a project file may be put
in another order, and lines that say nothing new may come and go, as long as the first line for each
key stays the first.

## Main definitions

- `Project.Irrelevant` — a line that says nothing about a project
- `Project.Edit`, `Project.Edited` — one harmless change of the lines of a text, any number of them
-/

namespace BitmapFont.Project

open Directives (lineKey? lineValue?)

/-- Whether a line says nothing about a project: it is blank or a comment, it has no equals sign or
no key before it, or its key is none of those that have a meaning. -/
inductive Irrelevant (line : List Char) : Prop
  | blank (h : Text.trim line = [])
  | comment (h : ['/', '/'] <+: Text.trim line)
  | noEquals (h : '=' ∉ line)
  | noKey (h : lineKey? line = some [])
  | otherKey {found : List Char} (h : lineKey? line = some found)
      (other : ∀ key : Key, found ≠ key.name.toList)

/-- One change of the lines of a project file. It may also be undone. -/
inductive Edit : List (List Char) → List (List Char) → Prop
  /-- The lines are put in another order, but those for the same key of a project stay in theirs. -/
  | reorder {lines lines' : List (List Char)} (same : lines.Perm lines')
      (kept : ∀ key : Key, lines.filter (lineKey? · = some key.name.toList) =
        lines'.filter (lineKey? · = some key.name.toList)) : Edit lines lines'
  /-- A line is inserted that says nothing about the project. -/
  | irrelevant (before after : List (List Char)) {line : List Char} (h : Irrelevant line) :
      Edit (before ++ after) (before ++ line :: after)
  /-- A line is inserted whose key is that of an earlier line. -/
  | repeated (before after : List (List Char)) {line : List Char}
      (h : ∃ earlier ∈ before, lineKey? earlier = lineKey? line) :
      Edit (before ++ after) (before ++ line :: after)
  /-- Blanks are added at the end of a line, such as the carriage return of another line ending. -/
  | ending (before after : List (List Char)) (line : List Char) {blanks : List Char}
      (h : ∀ c ∈ blanks, Text.isBlank c = true) :
      Edit (before ++ line :: after) (before ++ (line ++ blanks) :: after)

/-- Whether a text becomes another by changes of its lines that do not matter to a project. -/
def Edited (text text' : String) : Prop :=
  Relation.EqvGen Edit (Text.lines text.toList) (Text.lines text'.toList)

theorem Key.isKey_name (key : Key) :
    key.name.toList ≠ [] ∧ ¬ ['/', '/'] <+: key.name.toList := by
  cases key <;> decide

theorem lineValue?_of_irrelevant {line : List Char} (h : Irrelevant line) (key : Key) :
    lineValue? key.name line = none := by
  cases h with
  | blank blank =>
    simp only [lineValue?, Directives.statement, blank, true_or, if_true]
  | comment comment =>
    have said := List.isPrefixOf_iff_prefix.2 comment
    simp only [lineValue?, Directives.statement, said, or_true, if_true]
  | noEquals absent =>
    apply Directives.lineValue?_of_lineKey?_ne
    rw [Directives.lineKey?_eq_none_iff.2 absent]
    exact (Option.some_ne_none _).symm
  | noKey empty =>
    apply Directives.lineValue?_of_lineKey?_ne
    rw [empty]
    intro same
    exact key.isKey_name.1 (Option.some.inj same).symm
  | otherKey found other =>
    apply Directives.lineValue?_of_lineKey?_ne
    rw [found]
    intro same
    exact other key (Option.some.inj same)

/-- Only the lines with a key matter to its first value. -/
theorem findSome?_filter_lineKey? (lines : List (List Char)) (key : String) :
    (lines.filter (lineKey? · = some key.toList)).findSome? (lineValue? key) =
      lines.findSome? (lineValue? key) := by
  induction lines with
  | nil => rfl
  | cons line rest ih =>
    by_cases same : lineKey? line = some key.toList
    · rw [List.filter_cons_of_pos (by simp [same]), List.findSome?_cons, List.findSome?_cons, ih]
    · rw [List.filter_cons_of_neg (by simp [same]), ih, List.findSome?_cons,
        Directives.lineValue?_of_lineKey?_ne same]

/-- A line that gives a key no new value does not matter to its first value. -/
theorem findSome?_insert {before : List (List Char)} {line : List Char} {key : String}
    (h : lineValue? key line = none ∨ (before.findSome? (lineValue? key)).isSome)
    (after : List (List Char)) :
    (before ++ line :: after).findSome? (lineValue? key) =
      (before ++ after).findSome? (lineValue? key) := by
  rw [List.findSome?_append, List.findSome?_append, List.findSome?_cons]
  cases h with
  | inl none => rw [none]
  | inr given =>
    obtain ⟨value, first⟩ := Option.isSome_iff_exists.1 given
    rw [first, Option.some_or, Option.some_or]

/-- An edit keeps the first value of each key of a project. -/
theorem Edit.findSome?_eq {lines lines' : List (List Char)} (h : Edit lines lines') (key : Key) :
    lines'.findSome? (lineValue? key.name) = lines.findSome? (lineValue? key.name) := by
  cases h with
  | reorder same kept =>
    rw [← findSome?_filter_lineKey?, ← findSome?_filter_lineKey? lines, kept key]
  | irrelevant before after irrelevant =>
    exact findSome?_insert (Or.inl (lineValue?_of_irrelevant irrelevant key)) after
  | repeated before after repeated =>
    obtain ⟨earlier, hearlier, sameKey⟩ := repeated
    refine findSome?_insert ?_ after
    by_cases forKey : lineKey? earlier = some key.name.toList
    · -- A key of a project on any line is a declaration, so the earlier line has a value for it.
      obtain ⟨nonempty, noComment⟩ := key.isKey_name
      obtain ⟨value, given⟩ := Directives.exists_lineValue? forKey nonempty noComment
      exact Or.inr (List.findSome?_isSome_iff.2 ⟨earlier, hearlier, by rw [given]; rfl⟩)
    · rw [sameKey] at forKey
      exact Or.inl (Directives.lineValue?_of_lineKey?_ne forKey)
  | ending before after line blank =>
    rw [List.findSome?_append, List.findSome?_append, List.findSome?_cons, List.findSome?_cons,
      Directives.lineValue?_append_of_blank blank]

theorem findSome?_of_eqvGen {lines lines' : List (List Char)}
    (h : Relation.EqvGen Edit lines lines') (key : Key) :
    lines'.findSome? (lineValue? key.name) = lines.findSome? (lineValue? key.name) := by
  induction h with
  | rel _ _ edit => exact edit.findSome?_eq key
  | refl _ => rfl
  | symm _ _ _ ih => exact ih.symm
  | trans _ _ _ _ _ first second => exact second.trans first

/-- The steps that settle a project ask its directives only for the values of keys. -/
theorem resolve_congr {m m' : Directives} (same : ∀ key, value? m' key = value? m key)
    (projectPath workingDir : Path) (fs : FileSystem) :
    resolve m' projectPath workingDir fs = resolve m projectPath workingDir fs := by
  have located : locate m' projectPath workingDir fs = locate m projectPath workingDir fs := by
    simp only [locate, requestedFile, same]
  have byte (key : Key) : requiredByte m' key = requiredByte m key := by
    simp only [requiredByte, required, same]
  have component (key : Key) : colorComponent m' key = colorComponent m key := by
    simp only [colorComponent, same]
  have named : fontName m' = fontName m := by
    simp only [fontName, requestedName, same]
  simp only [resolve, located, charset, required, same, width, height, byte, color, component, named]

/-- A project file that is edited without a change to the first line for any key describes the same
project, or none for the same reason, and the same is remarked when it is settled. -/
theorem resolve_of_edited {text text' : String} (edited : Edited text text')
    (before before' : Diagnostics) (projectPath workingDir : Path) (fs : FileSystem) :
    resolve (Directives.parse text' before').1 projectPath workingDir fs =
      resolve (Directives.parse text before).1 projectPath workingDir fs := by
  apply resolve_congr
  intro key
  rw [Directives.parse_eq, Directives.parse_eq]
  change (Directives.ofText text').1.get? key.name = (Directives.ofText text).1.get? key.name
  rw [Directives.get?_ofText, Directives.get?_ofText]
  exact findSome?_of_eqvGen edited key

/-- The lines of a project file change places, and lines for another key and for a key that is
declared are added. The width stays the one on the first line for it, and the height is missing. -/
theorem resolve_of_edited_two_lines :
    let text := "FONT_WIDTH=8\nCHARSET=ascii\n"
    let text' := "CHARSET=ascii\nX=1\nFONT_WIDTH=8\nFONT_WIDTH=16"
    let fs : FileSystem := ⟨[(["p.rbf"], .file [])], [], by decide⟩
    let resolved := resolve (Directives.parse text' .empty).1 ⟨"p"⟩ ⟨""⟩ fs
    Edited text text' ∧ resolved = resolve (Directives.parse text .empty).1 ⟨"p"⟩ ⟨""⟩ fs ∧
      resolved.result = .error (.missing "FONT_HEIGHT") ∧ .info "FONT_WIDTH:8" ∈ resolved.notes := by
  intro text text' fs resolved
  have swapped : Edit ["FONT_WIDTH=8".toList, "CHARSET=ascii".toList]
      ["CHARSET=ascii".toList, "FONT_WIDTH=8".toList] := by
    apply Edit.reorder (.swap _ _ _)
    intro key
    cases key <;> decide
  have other : Edit ["CHARSET=ascii".toList, "FONT_WIDTH=8".toList]
      ["CHARSET=ascii".toList, "X=1".toList, "FONT_WIDTH=8".toList] := by
    have found : lineKey? "X=1".toList = some ['X'] := by decide
    apply Edit.irrelevant ["CHARSET=ascii".toList]
    apply Irrelevant.otherKey found
    intro key
    cases key <;> decide
  have again : Edit ["CHARSET=ascii".toList, "X=1".toList, "FONT_WIDTH=8".toList]
      ["CHARSET=ascii".toList, "X=1".toList, "FONT_WIDTH=8".toList, "FONT_WIDTH=16".toList] :=
    .repeated ["CHARSET=ascii".toList, "X=1".toList, "FONT_WIDTH=8".toList] []
      ⟨"FONT_WIDTH=8".toList, by simp, by decide⟩
  have edited : Edited text text' := by
    have before : Text.lines text.toList = ["FONT_WIDTH=8".toList, "CHARSET=ascii".toList] := by
      decide
    have after : Text.lines text'.toList = ["CHARSET=ascii".toList, "X=1".toList,
        "FONT_WIDTH=8".toList, "FONT_WIDTH=16".toList] := by
      decide
    rw [Edited, before, after]
    exact .trans _ _ _ (.rel _ _ swapped) (.trans _ _ _ (.rel _ _ other) (.rel _ _ again))
  refine ⟨edited, resolve_of_edited edited .empty .empty ⟨"p"⟩ ⟨""⟩ fs, ?_, ?_⟩
  · decide +kernel
  · decide +kernel

end BitmapFont.Project
