import BitmapFont.Diagnostic
import BitmapFont.Text.Blank
import BitmapFont.Text.Lines

/-!
# Directives

A project file is a list of lines `KEY=VALUE`, in which blank lines and lines that start with `//`
are comments. The first line for a key is the one that counts.

## Main definitions

- `Directives` — keys with their values, in the order of declaration
- `Directives.ofText`, `Directives.parse` — the directives of a text
- `Directives.source` — the text that declares given directives
-/

namespace BitmapFont

/-- Directives in the order of declaration. No key is declared twice. -/
structure Directives where
  entries : List (String × String)
  nodup_keys : (entries.map (·.1)).Nodup

namespace Directives

instance : DecidableEq Directives := fun m n =>
  decidable_of_iff (m.entries = n.entries) (by cases m; cases n; simp)

/-- No directives. -/
def empty : Directives := ⟨[], List.nodup_nil⟩

/-- The value of a key. -/
def get? (m : Directives) (key : String) : Option String :=
  m.entries.lookup key

/-- Whether a key is declared. -/
def contains (m : Directives) (key : String) : Bool :=
  (m.get? key).isSome

theorem get?_eq_none_iff {m : Directives} {key : String} :
    m.get? key = none ↔ key ∉ m.entries.map (·.1) := by
  simp only [get?, List.lookup_eq_none_iff, List.mem_map, not_exists, not_and, bne_iff_ne, ne_eq]
  exact ⟨fun h e he hk => h e he hk.symm, fun h e he hk => h e he hk.symm⟩

/-- The directives with one more at the end, unless its key is declared already. -/
def insert? (m : Directives) (key value : String) : Option Directives :=
  if h : m.get? key = none then
    some ⟨m.entries ++ [(key, value)], by
      rw [List.map_append, List.nodup_append]
      refine ⟨m.nodup_keys, by simp, ?_⟩
      intro k hk k' hk' same
      simp only [List.map_cons, List.map_nil, List.mem_singleton] at hk'
      exact get?_eq_none_iff.1 h (hk' ▸ same ▸ hk)⟩
  else
    none

/-- What a line of a project file says. -/
inductive Statement
  /-- A blank line or a comment. -/
  | nothing
  /-- A line without an equals sign. -/
  | unparsed
  /-- A line without text before the equals sign. -/
  | missingKey
  | directive (key value : List Char)

/-- What a line says. The key is the trimmed text before the first equals sign, the value the
trimmed text after it. -/
def statement (line : List Char) : Statement :=
  let trimmed := Text.trim line
  if trimmed = [] ∨ ['/', '/'].isPrefixOf trimmed then .nothing
  else
    match Text.cut? '=' line with
    | none => .unparsed
    | some (before, after) =>
      if Text.trim before = [] then .missingKey
      else .directive (Text.trim before) (Text.trim after)

/-- The directives after the line with number `n`, and what there is to say about it. -/
def scanLine (m : Directives) (n : Nat) (line : List Char) : Directives × Option Diagnostic :=
  match statement line with
  | .nothing => (m, none)
  | .unparsed =>
    (m, some (.warn n s!"Unparsed key: {String.ofList line} at line {n}"))
  | .missingKey =>
    (m, some (.warn n s!"Missing key: {String.ofList line} at line {n}"))
  | .directive key value =>
    let key := String.ofList key
    let value := String.ofList value
    match m.insert? key value with
    | none =>
      (m, some (.error n (s!"Duplicated key detected at line {n}, key {key} is already declared. "
        ++ "New value will be ignored.")))
    | some extended =>
      (extended, some (.debug n
        s!"Found key-value pair at line {n}: key {key}, value {value}"))

/-- The directives after numbered lines, and what there is to say about each line. -/
def scan : Directives → List (Nat × List Char) → Directives × List Diagnostic
  | m, [] => (m, [])
  | m, (n, line) :: rest =>
    let (next, note) := m.scanLine n line
    let (last, notes) := scan next rest
    (last, note.toList ++ notes)

/-- The directives of a text, and what there is to say about its lines. -/
def ofText (text : String) : Directives × List Diagnostic :=
  scan empty (Text.numbered (Text.lines text.toList))

/-- The directives of a text. What there is to say about its lines is added to the diagnostics. -/
def parse (text : String) (diagnostics : Diagnostics) : Directives × Diagnostics :=
  let (m, notes) := ofText text
  (m, diagnostics.append notes)

/-- The text that declares the directives, one on each line. -/
def source (m : Directives) : String :=
  String.join (m.entries.map fun (key, value) => key ++ "=" ++ value ++ "\n")

end Directives

end BitmapFont
