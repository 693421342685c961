import BitmapFont.Proofs.GlyphSource.FirstMistake
import BitmapFont.Proofs.LineRemarks

/-!
# Lines of glyph sources

Each line of a glyph source, up to the first mistake, is skipped for a reason, gives a glyph or has
the mistake. There is one remark on each of them but the empty lines and the comments: a warning if
it is skipped and the start of its compilation otherwise. So the remarks, the definitions and the
indices in use keep step.

## Main definitions

- `GlyphSource.Verdict` — what becomes of a line
- `GlyphSource.Verdicts` — the verdicts on all lines up to the first mistake
-/

namespace BitmapFont.GlyphSource

/-- What becomes of a line. -/
inductive Verdict
  | skipped (reason : SkipReason)
  | glyph (d : GlyphDefinition)
  | mistake (e : GlyphError)

namespace Verdict

/-- The definition that a line gives. -/
def definition? : Verdict → Option GlyphDefinition
  | glyph d => some d
  | _ => none

/-- The mistake that a line has. -/
def failure? : Verdict → Option GlyphError
  | mistake e => some e
  | _ => none

/-- What is remarked on a numbered line. -/
def remark? : Verdict → Nat × List Char → Option Diagnostic
  | skipped reason, line => reason.remark? line
  | glyph _, line | mistake _, line => some (startNote line.1 line.2)

theorem line_of_remark? (v : Verdict) (line : Nat × List Char) (d : Diagnostic)
    (h : v.remark? line = some d) : d.line = some line.1 := by
  cases v with
  | skipped reason =>
    obtain ⟨message, rfl⟩ := SkipReason.exists_message h
    rfl
  | glyph _ => exact Option.some.inj h ▸ rfl
  | mistake _ => exact Option.some.inj h ▸ rfl

theorem level_of_remark? {v : Verdict} {line : Nat × List Char} {d : Diagnostic}
    (h : v.remark? line = some d) : d.level = .warning ∨ d.level = .debug := by
  cases v with
  | skipped reason =>
    obtain ⟨message, rfl⟩ := SkipReason.exists_message h
    exact Or.inl rfl
  | glyph _ => exact Or.inr (Option.some.inj h ▸ rfl)
  | mistake _ => exact Or.inr (Option.some.inj h ▸ rfl)

/-- The start of a compilation is remarked on the lines that give a glyph or have a mistake. -/
theorem debug_of_remark? (v : Verdict) (line : Nat × List Char) :
    ((v.remark? line).toList.filter (·.level == .debug)).length =
      v.definition?.toList.length + v.failure?.toList.length := by
  cases v with
  | skipped reason => cases reason <;> rfl
  | glyph _ => rfl
  | mistake _ => rfl

end Verdict

/-- The verdicts on lines, after the given indices have been defined: one for each line up to the
first mistake, and none for the lines after it. -/
inductive Verdicts (settings : FontSettings) :
    List UInt8 → List (Nat × List Char) → List Verdict → Prop
  | nil {used : List UInt8} : Verdicts settings used [] []
  | skipped {used : List UInt8} {line : Nat × List Char} {lines : List (Nat × List Char)}
    {reason : SkipReason} {vs : List Verdict} (why : SkippedFor used line.2 reason)
    (others : Verdicts settings used lines vs) :
    Verdicts settings used (line :: lines) (.skipped reason :: vs)
  | glyph {used : List UInt8} {line : Nat × List Char} {lines : List (Nat × List Char)}
    {d : GlyphDefinition} {vs : List Verdict} (defines : Defines used line.2)
    (fine : ¬ Malformed settings line.2) (records : Records settings line d)
    (others : Verdicts settings (used ++ [d.index]) lines vs) :
    Verdicts settings used (line :: lines) (.glyph d :: vs)
  | mistake {used : List UInt8} {line : Nat × List Char} {lines : List (Nat × List Char)}
    {e : GlyphError} (defines : Defines used line.2) (reports : Reports settings line e) :
    Verdicts settings used (line :: lines) [.mistake e]

variable {settings : FontSettings}

theorem Verdicts.length_le {used : List UInt8} {lines : List (Nat × List Char)} {vs : List Verdict}
    (h : Verdicts settings used lines vs) : vs.length ≤ lines.length := by
  induction h with
  | nil => exact Nat.le_refl 0
  | skipped _ _ ih => exact Nat.succ_le_succ ih
  | glyph _ _ _ _ ih => exact Nat.succ_le_succ ih
  | mistake _ _ => exact Nat.succ_le_succ (Nat.zero_le _)

/-- What is read from lines is told by the verdicts on them. -/
theorem verdicts_readLines (settings : FontSettings) (used : IndexSet)
    (lines : List (Nat × List Char)) :
    ∃ vs, Verdicts settings used.order lines vs ∧
      (readLines settings used lines).definitions = vs.filterMap Verdict.definition? ∧
      (readLines settings used lines).failure.toList = vs.filterMap Verdict.failure? ∧
      (readLines settings used lines).notes = remarksOn Verdict.remark? lines vs := by
  -- A definition line puts its index in use, and a mistake leaves no line to go on with.
  induction lines generalizing used with
  | nil => exact ⟨[], .nil, rfl, rfl, rfl⟩
  | cons numbered rest ih =>
    obtain ⟨n, line⟩ := numbered
    by_cases defines : Defines used.order line
    · rw [readLines_cons_of_defines defines]
      cases given : outcome settings (n, line) with
      | error e =>
        refine ⟨_, .mistake defines (outcome_eq_error_iff.1 given), rfl, rfl, ?_⟩
        rw [remarksOn_cons, remarksOn_nil]
        rfl
      | ok d =>
        have index : d.index = lineIndex line := (outcome_eq_ok_iff.1 given).2.1
        obtain ⟨vs, others, definitions, failure, notes⟩ := ih (used.insert (lineIndex line))
        rw [order_insert_lineIndex defines, ← index] at others
        refine ⟨_, .glyph defines (not_malformed_of_outcome given) (records_of_outcome given)
          others, ?_, failure, ?_⟩
        · exact congrArg (d :: ·) definitions
        · exact congrArg (startNote n line :: ·) notes
    · obtain ⟨reason, skipped, same⟩ := readLines_cons_of_not_defines settings defines
      obtain ⟨vs, others, definitions, failure, notes⟩ := ih used
      rw [same]
      refine ⟨_, .skipped skipped others, definitions, failure, ?_⟩
      rw [remarksOn_cons, ← notes]
      rfl

/-- There are as many starts of a compilation as definitions and mistakes. -/
theorem length_debug_remarksOn {lines : List (Nat × List Char)} {vs : List Verdict}
    (h : vs.length ≤ lines.length) :
    ((remarksOn Verdict.remark? lines vs).filter (·.level == .debug)).length =
      (vs.filterMap Verdict.definition?).length + (vs.filterMap Verdict.failure?).length := by
  induction vs generalizing lines with
  | nil => simp
  | cons v vs ih =>
    cases lines with
    | nil => exact absurd h (by simp)
    | cons line lines =>
      rw [remarksOn_cons, List.filter_append, List.length_append, Verdict.debug_of_remark?,
        ih (Nat.le_of_succ_le_succ h)]
      cases v <;> simp [List.filterMap_cons, Verdict.definition?, Verdict.failure?] <;> omega

/-- Every line of a glyph source up to the first mistake has a verdict, and no line after it has
one. Empty lines and comments are passed over in silence. A line whose character cannot be encoded,
whose index is in use or which has no equals sign is skipped with a warning, and the start of a
compilation is remarked on a line that gives a glyph or has the mistake. The remarks carry the
numbers of their lines, in ascending order, and nothing else is remarked. -/
theorem read_accounts_for_every_line (settings : FontSettings) (text : String)
    (session : Session) :
    let lines := Text.numbered (Text.lines text.toList)
    let items := (read settings text session).1
    let after := (read settings text session).2
    ∃ (vs : List Verdict) (records : List GlyphDefinition) (mistake? : Option GlyphError),
      Verdicts settings session.used.order lines vs ∧
      records = vs.filterMap Verdict.definition? ∧
      mistake?.toList = vs.filterMap Verdict.failure? ∧
      items = records.map .ok ++ mistake?.toList.map .error ∧
      after.diagnostics = session.diagnostics.append (remarksOn Verdict.remark? lines vs) ∧
      (remarksOn Verdict.remark? lines vs).Pairwise Diagnostic.Precedes ∧
      (∀ d ∈ remarksOn Verdict.remark? lines vs, d.level = .warning ∨ d.level = .debug) ∧
      (after.diagnostics.atLevel .debug).length =
        (session.diagnostics.atLevel .debug).length + records.length +
          (if mistake?.isSome then 1 else 0) ∧
      after.used.order = session.used.order ++ records.map (·.index) := by
  intro lines items after
  obtain ⟨vs, judged, definitions, failure, notes⟩ :=
    verdicts_readLines settings session.used lines
  have said : after.diagnostics =
      session.diagnostics.append (remarksOn Verdict.remark? lines vs) := by
    rw [← notes]
    rfl
  have ascending := pairwise_remarksOn Verdict.line_of_remark?
    (Text.pairwise_numbered (Text.lines text.toList)) vs
  refine ⟨vs, _, _, judged, definitions, failure, rfl, said, ascending, fun d hd => ?_, ?_,
    order_readLines settings session.used lines⟩
  · obtain ⟨_, _, remarked⟩ := List.mem_filterMap.1 hd
    exact Verdict.level_of_remark? remarked
  · have starts := length_debug_remarksOn judged.length_le
    rw [← definitions, ← failure] at starts
    rw [said, Diagnostics.append, Diagnostics.atLevel, Diagnostics.atLevel, List.filter_append,
      List.length_append, starts, Nat.add_assoc]
    cases (readLines settings session.used lines).failure <;> rfl

end BitmapFont.GlyphSource
