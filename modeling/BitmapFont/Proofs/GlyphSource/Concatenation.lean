import BitmapFont.Proofs.GlyphSource.LineVerdicts

/-!
# Glyph sources in parts

A glyph source may be cut after any line feed. The parts are read one after the other as the whole
is, because all that one line says to the next is the indices in use. Only the lines of the second
part are counted from its own start.

## Main definitions

- `GlyphError.later`, `GlyphSource.Later` — a mistake and a remark on the same line further down
- `GlyphSource.Reading.andThen` — one reading after another
-/

namespace BitmapFont

/-- The same mistake with `k` more lines before it. -/
def GlyphError.later (k : Nat) : GlyphError → GlyphError
  | wrongWidth line expected found => wrongWidth (line + k) expected found
  | invalidDigit line row => invalidDigit (line + k) row
  | overflow line row => overflow (line + k) row
  | wrongHeight char line expected found => wrongHeight char (line + k) expected found

namespace GlyphSource

/-- Whether two remarks are on the same line, for the same verdict, but the second one has `k` more
lines before it. -/
def Later (k : Nat) (d d' : Diagnostic) : Prop :=
  ∃ (v : Verdict) (n : Nat) (line : List Char),
    v.remark? (n, line) = some d ∧ v.remark? (n + k, line) = some d'

/-- Whether two readings are of the same lines, but the second one has `k` more lines before
them. -/
structure Reading.Later (k : Nat) (r r' : Reading) : Prop where
  definitions : r'.definitions = r.definitions
  failure : r'.failure = r.failure.map (GlyphError.later k)
  used : r'.used = r.used
  notes : List.Forall₂ (GlyphSource.Later k) r.notes r'.notes

/-- One reading without a mistake and then another. -/
def Reading.andThen (first second : Reading) : Reading where
  definitions := first.definitions ++ second.definitions
  failure := second.failure
  notes := first.notes ++ second.notes
  used := second.used

variable {settings : FontSettings}

theorem later_remark? (k : Nat) (v : Verdict) (n : Nat) (line : List Char) :
    List.Forall₂ (Later k) (v.remark? (n, line)).toList (v.remark? (n + k, line)).toList := by
  cases v with
  | skipped reason =>
    cases reason with
    | ignored => exact .nil
    | notEncodable => exact .cons ⟨.skipped .notEncodable, n, line, rfl, rfl⟩ .nil
    | alreadyDefined => exact .cons ⟨.skipped .alreadyDefined, n, line, rfl, rfl⟩ .nil
    | noEquals => exact .cons ⟨.skipped .noEquals, n, line, rfl, rfl⟩ .nil
  | glyph d => exact .cons ⟨.glyph d, n, line, rfl, rfl⟩ .nil
  | mistake e => exact .cons ⟨.mistake e, n, line, rfl, rfl⟩ .nil

theorem parseRow_later (width : RowWidth) (k n : Nat) (written : List Char) :
    parseRow width (n + k) written = (parseRow width n written).mapError (.later k) := by
  unfold parseRow
  dsimp only
  split
  · rfl
  · split
    · rfl
    · split <;> rfl

theorem parseRows_later (k n : Nat) (char : Char) (text : List Char) :
    parseRows settings (n + k) char text =
      (parseRows settings n char text).mapError (.later k) := by
  have rows : (Text.pieces ',' text).mapM (parseRow settings.width (n + k)) =
      ((Text.pieces ',' text).mapM (parseRow settings.width n)).mapError (.later k) := by
    rw [← mapM_mapError]
    exact congrArg (List.mapM · _) (funext (parseRow_later settings.width k n))
  rw [parseRows, parseRows, rows, mapError_bind]
  congr 1
  funext values
  split <;> rfl

/-- Only the mistakes of a definition line depend on the lines before it. -/
theorem outcome_later (k n : Nat) (line : List Char) :
    outcome settings (n + k, line) = (outcome settings (n, line)).mapError (.later k) := by
  rw [outcome, outcome, parseRows_later, mapError_bind]
  rfl

/-- Lines are read alike wherever they are, but for their numbers. -/
theorem readLines_later (settings : FontSettings) (k : Nat) (used : IndexSet)
    (lines : List (Nat × List Char)) :
    (readLines settings used lines).Later k
      (readLines settings used (lines.map (Prod.map (· + k) id))) := by
  induction lines generalizing used with
  | nil => exact ⟨rfl, rfl, rfl, .nil⟩
  | cons numbered rest ih =>
    obtain ⟨n, line⟩ := numbered
    simp only [List.map_cons, Prod.map, id_eq]
    by_cases defines : Defines used.order line
    · rw [readLines_cons_of_defines defines, readLines_cons_of_defines defines, outcome_later]
      have start := fun v => later_remark? k v n line
      cases outcome settings (n, line) with
      | error e => exact ⟨rfl, rfl, rfl, start (.mistake e)⟩
      | ok d =>
        obtain ⟨definitions, failure, used, notes⟩ := ih (used.insert (lineIndex line))
        refine ⟨congrArg (d :: ·) definitions, failure, used, ?_⟩
        exact List.rel_append (start (.glyph d)) notes
    · obtain ⟨reason, _, skipped⟩ := readLines_cons_of_not_defines settings defines
      obtain ⟨definitions, failure, used, notes⟩ := ih used
      rw [skipped, skipped]
      refine ⟨definitions, failure, used, ?_⟩
      exact List.rel_append (later_remark? k (.skipped reason) n line) notes

/-- Lines are read in two parts, of which the second is not read after a mistake in the first. -/
theorem readLines_append (settings : FontSettings) (used : IndexSet)
    (lines more : List (Nat × List Char)) :
    readLines settings used (lines ++ more) =
      match (readLines settings used lines).failure with
      | some _ => readLines settings used lines
      | none => (readLines settings used lines).andThen
          (readLines settings (readLines settings used lines).used more) := by
  induction lines generalizing used with
  | nil => rfl
  | cons numbered rest ih =>
    obtain ⟨n, line⟩ := numbered
    by_cases defines : Defines used.order line
    · rw [List.cons_append, readLines_cons_of_defines defines, readLines_cons_of_defines defines]
      cases outcome settings (n, line) with
      | error e => rfl
      | ok d =>
        dsimp only
        rw [ih]
        cases failed : (readLines settings (used.insert (lineIndex line)) rest).failure with
        | some e => simp only [failed]
        | none => rfl
    · obtain ⟨reason, _, skipped⟩ := readLines_cons_of_not_defines settings defines
      rw [List.cons_append, skipped, skipped, ih]
      dsimp only
      cases failed : (readLines settings used rest).failure with
      | some e => simp only [failed]
      | none => simp only [Reading.andThen, List.append_assoc]

theorem Reading.error_mem_items_iff {reading : Reading} {e : GlyphError} :
    .error e ∈ reading.items ↔ reading.failure = some e := by
  simp [items, eq_comm]

theorem Reading.items_andThen {first : Reading} (fine : first.failure = none) (second : Reading) :
    (first.andThen second).items = first.items ++ second.items := by
  simp [items, andThen, fine]

theorem Reading.Later.items {k : Nat} {r r' : Reading} (h : r.Later k r') :
    r'.items = r.items.map (Except.mapError (.later k)) := by
  rw [Reading.items, Reading.items, h.definitions, h.failure, List.map_append, List.map_map]
  cases r.failure <;> rfl

/-- A text whose last line is ended is read, and then another as its continuation. Without a
mistake in the first text this gives what both give, one after the other in the same session, but
the lines of the second text are counted from the start of the first. After a mistake in the first
text the second one does not matter. -/
theorem read_append (settings : FontSettings) (a b : String) (session : Session)
    (ends : a = "" ∨ a.toList.getLast? = some '\n') :
    let first := read settings a session
    let second := read settings b first.2
    let whole := read settings (a ++ b) session
    let k := (Text.lines a.toList).length
    ((∀ e, .error e ∉ first.1) →
      whole.1 = first.1 ++ second.1.map (Except.mapError (.later k)) ∧
        whole.2.used = second.2.used ∧
        ∃ notes notes', second.2.diagnostics = first.2.diagnostics.append notes ∧
          whole.2.diagnostics = first.2.diagnostics.append notes' ∧
          List.Forall₂ (Later k) notes notes') ∧
    ((∃ e, .error e ∈ first.1) → whole = first) := by
  intro first second whole k
  let part := readText settings a session.used
  have lines : Text.numbered (Text.lines (a ++ b).toList) =
      Text.numbered (Text.lines a.toList) ++
        (Text.numbered (Text.lines b.toList)).map (Prod.map (· + k) id) := by
    rw [String.toList_append, Text.lines_append (ends.imp_left String.toList_eq_nil_iff.2),
      Text.numbered_append]
  have joined : readText settings (a ++ b) session.used =
      match part.failure with
      | some _ => part
      | none => part.andThen (readLines settings part.used
          ((Text.numbered (Text.lines b.toList)).map (Prod.map (· + k) id))) := by
    rw [readText, lines, readLines_append]
    rfl
  constructor
  · intro fine
    have noMistake : part.failure = none := by
      rw [Option.eq_none_iff_forall_ne_some]
      exact fun e failed => fine e (Reading.error_mem_items_iff.2 failed)
    have moved := readLines_later settings k part.used (Text.numbered (Text.lines b.toList))
    rw [noMistake] at joined
    dsimp only at joined
    simp only [whole, first, second, read, joined]
    refine ⟨?_, moved.used, _, _, rfl, ?_, moved.notes⟩
    · rw [Reading.items_andThen noMistake, moved.items]
      rfl
    · exact congrArg Diagnostics.mk (List.append_assoc _ _ _).symm
  · rintro ⟨e, mistake⟩
    have failed : part.failure = some e := Reading.error_mem_items_iff.1 mistake
    rw [failed] at joined
    simp only [whole, first, read, joined]
    rfl

/-- A second text that defines a character again and has a mistake on its second line, which is the
third line of the whole; and a first text whose mistake makes the second one idle. -/
theorem read_append_repeated_and_mistake :
    let settings : FontSettings := ⟨.ascii, .w8, 1, .white, "F"⟩
    let session := Session.empty
    (read settings ("A=00000001\n" ++ "A=00000010\nB=2\n") session).1 =
        [.ok ⟨'A', 0x41, [1]⟩, .error (.wrongWidth 3 8 1)] ∧
      read settings ("A=2\n" ++ "B=00000001\n") session = read settings "A=2\n" session := by
  intro settings session
  have repeated := read_append settings "A=00000001\n" "A=00000010\nB=2\n" session
    (Or.inr (by decide))
  have mistaken := read_append settings "A=2\n" "B=00000001\n" session (Or.inr (by decide))
  have first : (read settings "A=00000001\n" session).1 = [.ok ⟨'A', 0x41, [1]⟩] := by decide
  refine ⟨?_, mistaken.2 ⟨.wrongWidth 1 8 1, by decide⟩⟩
  rw [(repeated.1 (by rw [first]; simp)).1]
  decide

end GlyphSource

end BitmapFont
