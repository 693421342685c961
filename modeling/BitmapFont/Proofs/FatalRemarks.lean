import BitmapFont.Proofs.Compilation
import BitmapFont.Proofs.Remarks

/-!
# Fatal remarks

Of all remarks only the last one of a compilation can be fatal, and it is exactly if the compilation
fails. So the fatal remarks of a session count the compilations in it that have failed.

## Main definitions

- `Compilations` — one compilation after another in the same session
-/

namespace BitmapFont

open FileSystem (Naming)
open Noted (AllNotes)

/-- What is remarked when a request is prepared is not fatal, even if the preparation fails. -/
theorem CompileRequest.level_of_mem_prepare (r : CompileRequest) (fs : FileSystem) :
    (r.prepare fs).AllNotes (·.level ≠ .fatal) := by
  refine AllNotes.bind (Noted.allNotes_ofExcept _) ?_
  intro text _
  have lines : ∀ d ∈ (Directives.ofText text).2, d.level ≠ .fatal :=
    fun d hd => (Directives.onLine_of_scan d hd).2
  refine AllNotes.bind (Noted.allNotes_noteAll lines) ?_
  intro _ _
  have project : (Project.resolve (Directives.ofText text).1 r.projectPath r.baseDir fs).AllNotes
      (·.level ≠ .fatal) :=
    fun d hd => (Project.remarks_resolve _ _ _ _ d hd).level_ne_fatal
  refine AllNotes.bind (project.mapError _) ?_
  intro project _
  refine AllNotes.bind (Noted.allNotes_ofExcept _) ?_
  intro output _
  have last : ((do
      let source ← .ofExcept (readText fs project.glyphFile)
      return ⟨project, output, source⟩ : Noted CompileError Job)).AllNotes (·.level ≠ .fatal) :=
    (Noted.allNotes_ofExcept _).bind fun _ _ => Noted.allNotes_pure _
  split
  · exact AllNotes.note_bind nofun last
  · exact last

theorem Job.notes_run (job : Job) (naming : Naming) (used : IndexSet) (fs : FileSystem) :
    (job.run naming used fs).notes =
      (GlyphSource.readText job.project.settings job.source used).notes := by
  unfold run
  dsimp only
  split
  · rfl
  · rfl

/-- What an attempt remarks, whether or not it succeeds, is not fatal. -/
theorem CompileRequest.level_of_mem_attempt (r : CompileRequest) (naming : Naming) (used : IndexSet)
    (fs : FileSystem) : ∀ d ∈ (r.attempt naming used fs).notes, d.level ≠ .fatal := by
  cases prepared : (r.prepare fs).result with
  | error e =>
    rw [attempt_of_error prepared]
    exact r.level_of_mem_prepare fs
  | ok job =>
    rw [attempt_of_prepare prepared]
    intro d hd
    obtain before | after := List.mem_append.1 hd
    · exact r.level_of_mem_prepare fs d before
    · rw [job.notes_run] at after
      exact (GlyphSource.onLine_of_readLines d after).2

/-- The remark with which a compilation ends, if it fails. -/
def Compilation.failure (done : Compilation) : List Diagnostic :=
  match done.result with
  | .ok _ => []
  | .error e => [.fatal e.message]

theorem diagnostics_compileWith (naming : Naming) (r : CompileRequest) (session : Session)
    (fs : FileSystem) :
    (compileWith naming r session fs).session.diagnostics.entries =
      session.diagnostics.entries ++ ((r.attempt naming session.used fs).notes ++
        (compileWith naming r session fs).failure) := by
  rw [compileWith]
  rfl

/-- Several compilations one after the other in the same session, each with the files that it finds,
and what becomes of them. -/
inductive Compilations : Session → List (Except CompileError Report) → Session → Prop
  | none (session : Session) : Compilations session [] session
  | next {session last : Session} {results : List (Except CompileError Report)} (naming : Naming)
      (r : CompileRequest) (fs : FileSystem)
      (rest : Compilations (compileWith naming r session fs).session results last) :
      Compilations session ((compileWith naming r session fs).result :: results) last

/-- The number of compilations that have failed. -/
def failures (results : List (Except CompileError Report)) : Nat :=
  results.countP fun result => !result.isOk

theorem Diagnostics.hasFatal_iff {ds : Diagnostics} :
    ds.hasFatal = true ↔ 0 < (ds.atLevel .fatal).length := by
  rw [hasFatal, List.any_eq_true, List.length_pos_iff_exists_mem]
  simp only [atLevel, List.mem_filter]

/-- A compilation adds a fatal remark if it fails, and otherwise none. -/
theorem length_atLevel_compileWith (naming : Naming) (r : CompileRequest) (session : Session)
    (fs : FileSystem) :
    ((compileWith naming r session fs).session.diagnostics.atLevel .fatal).length =
      (session.diagnostics.atLevel .fatal).length +
        failures [(compileWith naming r session fs).result] := by
  have harmless : (r.attempt naming session.used fs).notes.filter (·.level == .fatal) = [] := by
    rw [List.filter_eq_nil_iff]
    intro d hd
    rw [beq_iff_eq]
    exact r.level_of_mem_attempt naming session.used fs d hd
  have last (done : Compilation) :
      (done.failure.filter (·.level == .fatal)).length = failures [done.result] := by
    unfold Compilation.failure
    cases done.result with
    | ok report => rfl
    | error e => rfl
  rw [Diagnostics.atLevel, diagnostics_compileWith, List.filter_append, List.filter_append, harmless,
    List.nil_append, List.length_append, last, Diagnostics.atLevel]

theorem failures_cons (result : Except CompileError Report)
    (rest : List (Except CompileError Report)) :
    failures (result :: rest) = failures [result] + failures rest := by
  rw [failures, ← List.singleton_append, List.countP_append]
  rfl

/-- Over several compilations the fatal remarks grow by the number of failures. -/
theorem Compilations.length_atLevel {session last : Session}
    {results : List (Except CompileError Report)} (h : Compilations session results last) :
    (last.diagnostics.atLevel .fatal).length =
      (session.diagnostics.atLevel .fatal).length + failures results := by
  induction h with
  | none session => rfl
  | next naming r fs rest ih =>
    rw [ih, length_atLevel_compileWith, Nat.add_assoc, ← failures_cons]

theorem failures_pos_iff {results : List (Except CompileError Report)} :
    0 < failures results ↔ ∃ e, .error e ∈ results := by
  rw [failures, List.countP_pos_iff]
  constructor
  · rintro ⟨result, hresult, failed⟩
    cases result with
    | ok report => exact absurd failed Bool.false_ne_true
    | error e => exact ⟨e, hresult⟩
  · rintro ⟨e, he⟩
    exact ⟨.error e, he, rfl⟩

/-- A compilation keeps the remarks before it and adds its own. Exactly if it fails, the last of them
is fatal, about no line, and tells the error and its causes; no other is fatal. So the fatal remarks
of a session that begins without one count the compilations that have failed. -/
theorem compileWith_fatal_iff_failed :
    (∀ (naming : Naming) (r : CompileRequest) (session : Session) (fs : FileSystem),
      let done := compileWith naming r session fs
      ∃ notes : List Diagnostic, (∀ d ∈ notes, d.level ≠ .fatal) ∧
        (∀ report, done.result = .ok report →
          done.session.diagnostics.entries = session.diagnostics.entries ++ notes) ∧
        ∀ e, done.result = .error e →
          done.session.diagnostics.entries = session.diagnostics.entries ++ notes ++
            [⟨.fatal, none, ": ".intercalate e.chain⟩]) ∧
    ∀ (session last : Session) (results : List (Except CompileError Report)),
      session.diagnostics.hasFatal = false → Compilations session results last →
        (last.diagnostics.atLevel .fatal).length = failures results ∧
          (last.diagnostics.hasFatal = true ↔ ∃ e, .error e ∈ results) := by
  constructor
  · intro naming r session fs done
    have entries := diagnostics_compileWith naming r session fs
    refine ⟨_, r.level_of_mem_attempt naming session.used fs, ?_, ?_⟩
    · intro report succeeded
      rw [entries, Compilation.failure, succeeded, List.append_nil]
    · intro e failed
      rw [entries, Compilation.failure, failed, List.append_assoc]
      rfl
  · intro session last results unharmed compiled
    have start : (session.diagnostics.atLevel .fatal).length = 0 := by
      apply Nat.eq_zero_of_not_pos
      rw [← Diagnostics.hasFatal_iff, unharmed]
      exact Bool.false_ne_true
    have total := compiled.length_atLevel
    rw [start, Nat.zero_add] at total
    refine ⟨total, ?_⟩
    rw [Diagnostics.hasFatal_iff, total, failures_pos_iff]

/-- The project file is missing at first and found by a second compilation in the same session. -/
theorem compileWith_fatal_iff_failed_second_try :
    let content (text : String) : List UInt8 := text.toList.map fun c => UInt8.ofNat c.toNat
    let fs : FileSystem :=
      ⟨[(["p"], .file (content "CHARSET=ASCII\nFONT_WIDTH=8\nFONT_HEIGHT=1\nFONT_FILE=g")),
        (["g"], .file (content "A=00000001"))], [], by decide⟩
    let first := compileWith FileSystem.firstFreeName ⟨⟨"p"⟩, none, none⟩ .empty .empty
    let second := compileWith FileSystem.firstFreeName ⟨⟨"p"⟩, none, none⟩ first.session fs
    first.session.diagnostics.entries =
        [⟨.fatal, none, "Could not read p: No such file or directory (os error 2)"⟩] ∧
      second.result = .ok ⟨⟨"p.bff"⟩, "FONT", ['A'], 17⟩ ∧
      Compilations .empty [first.result, second.result] second.session ∧
      (second.session.diagnostics.atLevel .fatal).length = 1 ∧
      second.session.diagnostics.hasFatal = true := by
  intro content fs first second
  have failed : first.result = .error (.unreadable ⟨"p"⟩ .notFound) := by decide +kernel
  have succeeded : second.result = .ok ⟨⟨"p.bff"⟩, "FONT", ['A'], 17⟩ := by decide +kernel
  have both : Compilations .empty [first.result, second.result] second.session :=
    .next _ _ _ (.next _ _ _ (.none _))
  obtain ⟨counted, fatal⟩ := compileWith_fatal_iff_failed.2 _ _ _ rfl both
  rw [failed, succeeded] at counted fatal
  refine ⟨by decide +kernel, succeeded, both, counted, fatal.2 ⟨_, List.mem_cons_self⟩⟩

end BitmapFont
