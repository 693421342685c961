import BitmapFont.CommandLine.Basic
import BitmapFont.Proofs.Compilation
import BitmapFont.Proofs.GlyphSource.Again

/-!
# What the program does with a project

The user's setting for the log decides what is shown and nothing else: neither the exit code nor
what is printed nor any file depends on it. The exit code tells whether the project was compiled,
and if it was not, every file is as it was. A font file that was written is always accepted when it
is read back for the log.

## Main definitions

- `Invocation.IsOption` — arguments that are taken for options
-/

namespace BitmapFont

open FileSystem (Naming)

/-! ### Arguments -/

namespace Invocation

/-- Whether an argument is taken for an option: a dash with something after it. -/
def IsOption (argument : String) : Prop :=
  ∃ letter rest, argument.toList = '-' :: letter :: rest

theorem isOption_iff {argument : String} :
    IsOption argument ↔ argument.toList.head? = some '-' ∧ 2 ≤ argument.toList.length := by
  constructor
  · rintro ⟨letter, rest, split⟩
    rw [split]
    exact ⟨rfl, Nat.le_add_left 2 _⟩
  · rintro ⟨dash, long⟩
    obtain ⟨rest, split⟩ := List.head?_eq_some_iff.1 dash
    rw [split] at long
    obtain ⟨letter, rest, rfl⟩ := List.exists_cons_of_length_pos (Nat.lt_of_succ_lt_succ long)
    exact ⟨letter, rest, split⟩

instance (argument : String) : Decidable (IsOption argument) :=
  decidable_of_iff _ isOption_iff.symm

/-- An argument that is no option names a project, unless it is empty. -/
theorem parse_of_not_option {argument : String} (h : ¬ IsOption argument) :
    parse [argument] =
      if argument = "" then .refused .emptyPath else .project ⟨argument⟩ := by
  rw [parse]
  unfold parseFrom
  dsimp only
  split
  case h_1 dashes => exact absurd ⟨_, _, dashes⟩ h
  case h_2 dashes => exact absurd ⟨_, _, dashes⟩ h
  case h_3 dash => exact absurd ⟨_, _, dash⟩ h
  case h_4 =>
    unfold parseFrom
    split
    case h_1 none => exact nomatch none
    case h_2 empty =>
      obtain rfl := Option.some.inj empty
      rfl
    case h_3 text nonempty same =>
      obtain rfl := Option.some.inj same
      rw [if_neg nonempty]

end Invocation

/-! ### The log of a compilation -/

theorem Diagnostic.source_logRecord (d : Diagnostic) : d.logRecord.source = .diagnostics := by
  unfold logRecord
  split <;> rfl

theorem Job.source_of_mem_log {job : Job} {naming : Naming} {used : IndexSet} {fs : FileSystem}
    {record : LogRecord} (h : record ∈ (job.run naming used fs).log) :
    record.source = .compiler := by
  unfold run at h
  dsimp only at h
  split at h
  · exact absurd h List.not_mem_nil
  · obtain ⟨path, _, rfl⟩ := List.mem_map.1 h
    rfl

theorem CompileRequest.source_of_mem_log {r : CompileRequest} {naming : Naming} {used : IndexSet}
    {fs : FileSystem} {record : LogRecord} (h : record ∈ (r.attempt naming used fs).log) :
    record.source = .compiler := by
  cases prepared : (r.prepare fs).result with
  | error e =>
    rw [attempt_of_error prepared] at h
    exact absurd h List.not_mem_nil
  | ok job =>
    rw [attempt_of_prepare prepared] at h
    dsimp only at h
    exact Job.source_of_mem_log h

/-- A compilation logs as the compiler or for a diagnostic. -/
theorem source_of_mem_log {naming : Naming} {r : CompileRequest} {session : Session}
    {fs : FileSystem} {record : LogRecord} (h : record ∈ (compileWith naming r session fs).log) :
    record.source ≠ .commandLine := by
  have diagnostic {ds : List Diagnostic} (among : record ∈ ds.map (·.logRecord)) :
      record.source ≠ .commandLine := by
    obtain ⟨d, _, rfl⟩ := List.mem_map.1 among
    rw [d.source_logRecord]
    decide
  rw [compileWith] at h
  dsimp only at h
  obtain ((among | among) | among) := by simpa only [List.mem_append] using h
  · obtain rfl | among := List.mem_cons.1 among
    · exact LogSource.noConfusion
    · exact diagnostic among
  · rw [CompileRequest.source_of_mem_log among]
    decide
  · exact diagnostic among

/-! ### The font file that is read back -/

namespace Charset

/-- The indices below 128 are those of characters. -/
theorem decode_eq_some_decodeAll (charset : Charset) {indices : List UInt8}
    (ascii : ∀ index ∈ indices, index.toNat < 128) :
    List.Forall₂ (fun index c => charset.decode index = some c) indices
      (charset.decodeAll indices) := by
  rw [decodeAll, List.forall₂_map_right_iff, List.forall₂_same]
  intro index hindex
  rw [charset.eq_ascii, decode, if_pos (ascii index hindex), Option.getD_some]

end Charset

/-- A compilation in a new session that succeeds has written a font file that is accepted. Its font
has the reported name, and each of its glyphs draws the reported character. -/
theorem exists_font_of_compile {r : CompileRequest} {fs : FileSystem} {report : Report}
    (succeeded : (compile r .empty fs).result = .ok report) :
    ∃ data font, (compile r .empty fs).files.read report.output = .ok data ∧
      Image.read data = .ok font ∧ font.header.name = report.fontName ∧
        List.Forall₂ (fun g c => font.charset.decode g.index = some c) font.glyphs
          report.characters := by
  rw [compile, result_compileWith] at succeeded
  obtain ⟨job, image, place, -, rfl, built, replaceable, files⟩ :=
    CompileRequest.exists_of_attempt_eq_ok succeeded
  rw [← job.buildFont_eq .empty] at built
  obtain ⟨font, accepted, name, indices, order⟩ := GlyphSource.read_of_buildFont built
  -- The report's characters are decoded with a replacement, which no index of the font needs.
  have ascii : ∀ index ∈ font.glyphs.map (·.index), index.toNat < 128 := by
    intro index hindex
    rw [indices] at hindex
    obtain ⟨line, hline, rfl⟩ := List.mem_map.1 hindex
    have small := (GlyphSource.mem_of_mem_definitionLines hline).2.2.2.1
    rwa [GlyphSource.lineIndex, Text.toNat_byte_of_lt_128 small]
  have characters : (job.report Session.empty.used image).characters =
      font.charset.decodeAll (font.glyphs.map (·.index)) := by
    rw [font.charset.eq_ascii, ← job.project.settings.charset.eq_ascii]
    exact congrArg _ order
  rw [compile, files_compileWith, files, characters]
  refine ⟨image, font, (replaceable.replaces image).read, accepted, name, ?_⟩
  exact List.forall₂_map_left_iff.1 (font.charset.decode_eq_some_decodeAll ascii)

namespace CommandLine

variable {fs : FileSystem} {argument : String}

theorem reloadRecords_of_read {output : Path} {data : List UInt8} {font : Font}
    (found : fs.read output = .ok data) (accepted : Image.read data = .ok font) :
    reloadRecords output fs = ⟨.debug, .commandLine, s!"Reloading '{output.text}'..."⟩ ::
      font.statistics.map fun line => ⟨.info, .fontStatistics, line⟩ := by
  unfold reloadRecords
  rw [found]
  dsimp only
  rw [accepted]
  rfl

/-- The setting for the log matters only to standard error. -/
theorem run_same_but_stderr (arguments : List String) (setting setting' : Option String)
    (fs : FileSystem) :
    (run arguments setting fs).exitCode = (run arguments setting' fs).exitCode ∧
      (run arguments setting fs).stdout = (run arguments setting' fs).stdout ∧
        (run arguments setting fs).files = (run arguments setting' fs).files := by
  unfold run answer compileProject
  dsimp only
  split
  case h_5 path =>
    split
    · exact ⟨rfl, rfl, rfl⟩
    · exact ⟨rfl, rfl, rfl⟩
  all_goals exact ⟨rfl, rfl, rfl⟩

theorem ite_isOk_eq_zero_iff {result : Except CompileError Report} :
    (if result.isOk then (0 : UInt8) else 1) = 0 ↔ ∃ report, result = .ok report := by
  cases result with
  | error e => simp [Except.isOk, Except.toBool]
  | ok report => simp [Except.isOk, Except.toBool]

/-- A file is compiled, and the program logs as `records` tells. Anything else is refused without a
record. -/
theorem run_cases (h : ¬ Invocation.IsOption argument) (setting : Option String)
    (fs : FileSystem) :
    (fs.isFile ⟨argument⟩ = false ∧ (run [argument] setting fs).exitCode ≠ 0 ∧
        (run [argument] setting fs).files = fs ∧
        ∀ micros record, .record record ∉ (run [argument] setting fs).stderr micros) ∨
      (fs.isFile ⟨argument⟩ = true ∧
        (run [argument] setting fs).exitCode =
          (if (compile ⟨⟨argument⟩, none, none⟩ .empty fs).result.isOk then 0 else 1) ∧
        (run [argument] setting fs).files = (compile ⟨⟨argument⟩, none, none⟩ .empty fs).settled ∧
        ∀ micros record, .record record ∈ (run [argument] setting fs).stderr micros →
          record ∈ records (LogFilter.ofSetting setting).1
            (compile ⟨⟨argument⟩, none, none⟩ .empty fs) micros) := by
  have plain {record : LogRecord} {texts : List String} :
      ErrorLine.record record ∉ texts.map .plain := by
    simp
  unfold run answer
  rw [Invocation.parse_of_not_option h]
  dsimp only
  by_cases empty : argument = ""
  · subst empty
    rw [if_pos rfl]
    refine Or.inl ⟨rfl, (by decide : (2 : UInt8) ≠ 0), rfl, fun micros record among => ?_⟩
    obtain among | among := List.mem_append.1 among
    · exact plain among
    · exact plain among
  · rw [if_neg empty]
    dsimp only [compileProject]
    split
    case isTrue present =>
      refine Or.inr ⟨present, rfl, rfl, fun micros record among => ?_⟩
      obtain among | among := List.mem_append.1 among
      · exact absurd among plain
      · obtain ⟨shown, hshown, same⟩ := List.mem_map.1 among
        obtain rfl := ErrorLine.record.inj same
        exact (List.mem_filter.1 hshown).1
    case isFalse absent =>
      refine Or.inl ⟨Bool.eq_false_iff.2 absent, (by decide : (1 : UInt8) ≠ 0), rfl, ?_⟩
      intro micros record among
      obtain among | among := List.mem_append.1 among
      · exact plain among
      · simp [usage] at among

/-- The program does not warn in the log, because every font file that it reads back is accepted. -/
theorem not_mem_records_warn (filter : LogFilter) (r : CompileRequest) (fs : FileSystem)
    (micros : Nat) (message : String) :
    ⟨.warn, .commandLine, message⟩ ∉ records filter (compile r .empty fs) micros := by
  have closed {report : Report} (succeeded : (compile r .empty fs).result = .ok report) :
      ⟨.warn, .commandLine, message⟩ ∉
        reloadRecords report.output (compile r .empty fs).files := by
    obtain ⟨data, font, found, accepted, -⟩ := exists_font_of_compile succeeded
    rw [reloadRecords_of_read found accepted]
    simp
  -- Only a record of the command line's own could be the warning, and it is made when reading back.
  unfold records
  dsimp only
  intro among
  obtain (among | among) := List.mem_append.1 among
  · obtain same | among := List.mem_cons.1 among
    · exact nomatch same
    · exact source_of_mem_log among rfl
  · split at among
    case h_1 => exact absurd among List.not_mem_nil
    case h_2 report succeeded =>
      obtain among | among := List.mem_append.1 among
      · obtain ⟨_, _, same⟩ := List.mem_map.1 among
        exact nomatch same
      · split at among
        · exact closed succeeded among
        · exact absurd among List.not_mem_nil

/-- The setting for the log changes neither the exit code nor what is printed nor the files. The
exit code for a project is zero if and only if it is a file and can be compiled, and otherwise every
file stays as it was. A font file that was written is accepted when it is read back, so that the
program never warns of it, and it has the reported name and a glyph for each of the reported
characters. -/
theorem run_project_all_or_nothing (fs : FileSystem) :
    (∀ (arguments : List String) (setting setting' : Option String),
      (run arguments setting fs).exitCode = (run arguments setting' fs).exitCode ∧
        (run arguments setting fs).stdout = (run arguments setting' fs).stdout ∧
          (run arguments setting fs).files = (run arguments setting' fs).files) ∧
    ∀ (argument : String) (setting : Option String), ¬ Invocation.IsOption argument →
      let done := compile ⟨⟨argument⟩, none, none⟩ .empty fs
      let outcome := run [argument] setting fs
      (outcome.exitCode = 0 ↔
        fs.isFile ⟨argument⟩ = true ∧ ∃ report, done.result = .ok report) ∧
      (outcome.exitCode ≠ 0 → outcome.files = fs) ∧
      (outcome.exitCode = 0 → ∃ report data font, done.result = .ok report ∧
        outcome.files = done.files ∧ outcome.files.read report.output = .ok data ∧
        Image.read data = .ok font ∧
        reloadRecords report.output outcome.files =
          ⟨.debug, .commandLine, s!"Reloading '{report.output.text}'..."⟩ ::
            font.statistics.map (fun line => ⟨.info, .fontStatistics, line⟩) ∧
        font.header.name = report.fontName ∧
        List.Forall₂ (fun g c => font.charset.decode g.index = some c) font.glyphs
          report.characters) ∧
      ∀ micros message, .record ⟨.warn, .commandLine, message⟩ ∉ outcome.stderr micros := by
  refine ⟨fun arguments setting setting' => run_same_but_stderr arguments setting setting' fs, ?_⟩
  intro argument setting notOption done outcome
  obtain ⟨absent, code, files, noRecord⟩ | ⟨present, code, files, logged⟩ :=
    run_cases notOption setting fs
  · refine ⟨iff_of_false code fun h => ?_, fun _ => files, fun h => absurd h code,
      fun micros message => noRecord micros _⟩
    exact nomatch absent.symm.trans h.1
  · have zero : outcome.exitCode = 0 ↔ ∃ report, done.result = .ok report := by
      rw [← ite_isOk_eq_zero_iff, ← code]
    refine ⟨zero.trans (and_iff_right present).symm, fun failed => ?_, fun h => ?_,
      fun micros message among => not_mem_records_warn _ _ _ _ _ (logged micros _ among)⟩
    · have error : ∃ e, done.result = .error e :=
        exists_error_iff.2 fun report succeeded => failed (zero.2 ⟨report, succeeded⟩)
      obtain ⟨e, error⟩ := error
      rw [files]
      exact settled_compileWith_of_error error
    · obtain ⟨report, succeeded⟩ := zero.1 h
      obtain ⟨data, font, found, accepted, name, characters⟩ := exists_font_of_compile succeeded
      have settled : done.settled = done.files := by rw [Compilation.settled, succeeded]
      rw [settled] at files
      rw [← files] at found
      exact ⟨report, data, font, succeeded, files, found, accepted,
        reloadRecords_of_read found accepted, name, characters⟩

/-- A project that is compiled and told of in detail, a glyph source that is no project, and a file
that does not exist. -/
theorem run_project_all_or_nothing_detailed_log :
    let content (text : String) : List UInt8 := text.toList.map fun c => UInt8.ofNat c.toNat
    let fs : FileSystem :=
      ⟨[(["p"], .file (content "CHARSET=ASCII\nFONT_WIDTH=8\nFONT_HEIGHT=1\nFONT_FILE=g")),
        (["g"], .file (content "A=00000001"))], [], by decide⟩
    let detailed := run ["p"] (some "debug") fs
    (∃ report data font, (compile ⟨⟨"p"⟩, none, none⟩ .empty fs).result = .ok report ∧
      detailed.files.read report.output = .ok data ∧ Image.read data = .ok font ∧
      List.Forall₂ (fun g c => font.charset.decode g.index = some c) font.glyphs
        report.characters) ∧
      detailed.files = (run ["p"] none fs).files ∧
      (∃ micros, .record ⟨.debug, .commandLine, "Reloading 'p.bff'..."⟩ ∈ detailed.stderr micros) ∧
      (run ["g"] none fs).exitCode ≠ 0 ∧ (run ["g"] none fs).files = fs ∧
      (run ["q"] none fs).exitCode ≠ 0 ∧ (run ["q"] none fs).files = fs := by
  intro content fs detailed
  obtain ⟨independent, projects⟩ := run_project_all_or_nothing fs
  have succeeded : (compile ⟨⟨"p"⟩, none, none⟩ .empty fs).result =
      .ok ⟨⟨"p.bff"⟩, "FONT", ['A'], 17⟩ := by
    decide +kernel
  obtain ⟨zero, -, written, -⟩ := projects "p" (some "debug") (by decide)
  obtain ⟨report, data, font, compiled, -, found, accepted, -, -, characters⟩ :=
    written (zero.2 ⟨by decide +kernel, _, succeeded⟩)
  have told : .record ⟨.debug, .commandLine, "Reloading 'p.bff'..."⟩ ∈ detailed.stderr 0 := by
    decide +kernel
  have refused : (run ["g"] none fs).exitCode ≠ 0 := by decide +kernel
  have missing : (run ["q"] none fs).exitCode ≠ 0 := by decide +kernel
  exact ⟨⟨report, data, font, compiled, found, accepted, characters⟩,
    (independent ["p"] (some "debug") none).2.2, ⟨0, told⟩, refused,
    (projects "g" none (by decide)).2.1 refused, missing,
    (projects "q" none (by decide)).2.1 missing⟩

end CommandLine

end BitmapFont
