import BitmapFont.Compilation.Basic
import BitmapFont.Proofs.FileSystem.Replacement

/-!
# Compilations are all or nothing

A compilation that succeeds replaces the font file by the complete image and changes nothing else.
One that fails leaves every file as it was, whichever step failed. Only if the complete image cannot
take the place of the font file, it stays in a temporary file until the error is dropped.

## Main definitions

- `Job.image` — the image that a job builds
- `Job.Ends` — the outcomes of a job, each with the files after it
-/

namespace BitmapFont

open FileSystem (Naming Replaces LeavesTemporary temporaryDirectory)

theorem readText_eq_ok_iff {fs : FileSystem} {path : Path} {text : String} :
    readText fs path = .ok text ↔ ∃ content, fs.read path = .ok content ∧
      Text.decodeFile content = text := by
  unfold readText
  cases fs.read path with
  | error e => simp
  | ok content => simp

theorem readText_of_read {fs : FileSystem} {path : Path} {content : List UInt8}
    (h : fs.read path = .ok content) : readText fs path = .ok (Text.decodeFile content) :=
  readText_eq_ok_iff.2 ⟨content, h, rfl⟩

theorem unreadable_of_readText {fs : FileSystem} {path : Path} {e : CompileError}
    (h : readText fs path = .error e) : ∃ cause, e = .unreadable path cause := by
  unfold readText at h
  split at h
  case h_1 => exact nomatch h
  case h_2 cause _ => exact ⟨cause, (Except.error.inj h).symm⟩

/-- The outcome of preparing a request, apart from what is remarked on the way. -/
theorem CompileRequest.result_prepare (r : CompileRequest) (fs : FileSystem) :
    (r.prepare fs).result = do
      let text ← readText fs r.projectPath
      let project ← (Project.resolve (Directives.ofText text).1 r.projectPath r.baseDir
        fs).result.mapError .project
      let output ← r.outputPath.mapError .project
      let source ← readText fs project.glyphFile
      return ⟨project, output, source⟩ := by
  rw [prepare, Noted.result_bind, Noted.result_ofExcept]
  refine bind_congr fun text => ?_
  dsimp only
  rw [Noted.result_bind, Noted.result_noteAll]
  change Noted.result _ = _
  rw [Noted.result_bind, Noted.result_mapError]
  refine bind_congr fun project => ?_
  rw [Noted.result_bind, Noted.result_ofExcept]
  refine bind_congr fun output => ?_
  have last : ((do
      let source ← .ofExcept (readText fs project.glyphFile)
      return ⟨project, output, source⟩ : Noted CompileError Job)).result =
        (do let source ← readText fs project.glyphFile; return ⟨project, output, source⟩) := by
    rw [Noted.result_bind]
    rfl
  split
  · rw [Noted.result_bind, Noted.result_note]
    exact last
  · exact last

/-- A job has the project file's project, the chosen font file and the text of the glyph source. -/
theorem CompileRequest.prepare_cases {r : CompileRequest} {fs : FileSystem} {job : Job}
    (h : (r.prepare fs).result = .ok job) :
    ∃ text, readText fs r.projectPath = .ok text ∧
      (Project.resolve (Directives.ofText text).1 r.projectPath r.baseDir fs).result =
        .ok job.project ∧
      r.outputPath = .ok job.output ∧ readText fs job.project.glyphFile = .ok job.source := by
  rw [result_prepare] at h
  obtain ⟨text, readable, h⟩ := bind_eq_ok_iff.1 h
  obtain ⟨project, resolved, h⟩ := bind_eq_ok_iff.1 h
  obtain ⟨output, chosen, h⟩ := bind_eq_ok_iff.1 h
  obtain ⟨source, readableSource, same⟩ := bind_eq_ok_iff.1 h
  obtain rfl := pure_eq_ok_iff.1 same
  exact ⟨text, readable, mapError_eq_ok_iff.1 resolved, mapError_eq_ok_iff.1 chosen,
    readableSource⟩

/-- A request is not prepared if a file cannot be read, or else, after the project file was read, if
the project is not resolved or has no output path. -/
theorem CompileRequest.prepare_error_cases {r : CompileRequest} {fs : FileSystem} {e : CompileError}
    (h : (r.prepare fs).result = .error e) :
    (∃ path cause, e = .unreadable path cause) ∨
      ∃ text cause, readText fs r.projectPath = .ok text ∧ e = .project cause ∧
        ((Project.resolve (Directives.ofText text).1 r.projectPath r.baseDir fs).result =
            .error cause ∨ r.outputPath = .error cause) := by
  rw [result_prepare] at h
  obtain failed | ⟨text, readable, h⟩ := bind_eq_error_iff.1 h
  · obtain ⟨cause, rfl⟩ := unreadable_of_readText failed
    exact Or.inl ⟨_, cause, rfl⟩
  obtain failed | ⟨project, _, h⟩ := bind_eq_error_iff.1 h
  · obtain ⟨cause, unresolved, rfl⟩ := mapError_eq_error_iff.1 failed
    exact Or.inr ⟨text, cause, readable, rfl, Or.inl unresolved⟩
  obtain failed | ⟨output, _, h⟩ := bind_eq_error_iff.1 h
  · obtain ⟨cause, unnamed, rfl⟩ := mapError_eq_error_iff.1 failed
    exact Or.inr ⟨text, cause, readable, rfl, Or.inr unnamed⟩
  obtain failed | ⟨source, _, impossible⟩ := bind_eq_error_iff.1 h
  · obtain ⟨cause, rfl⟩ := unreadable_of_readText failed
    exact Or.inl ⟨_, cause, rfl⟩
  · exact absurd impossible (pure_ne_error _ e)

namespace Job

/-- The image that a job builds from its source, after the given indices have been defined. -/
def image (job : Job) (used : IndexSet) : Except (AssemblyError GlyphError) (List UInt8) :=
  assemble job.project.settings (GlyphSource.readText job.project.settings job.source used).items

/-- What is reported when a job has been done. -/
def report (job : Job) (used : IndexSet) (image : List UInt8) : Report where
  output := job.output
  fontName := job.project.settings.name
  characters := job.project.settings.charset.decodeAll
    (GlyphSource.readText job.project.settings job.source used).used.order
  size := image.length

/-- The outcomes of a job, each with the files after it. -/
inductive Ends (job : Job) (naming : Naming) (used : IndexSet) (fs : FileSystem) :
    Except CompileError Report → FileSystem → Prop
  /-- The job fails and changes nothing. -/
  | failed {e : CompileError} (none : e.kept? = none) : Ends job naming used fs (.error e) fs
  /-- The image is built, but it stays in a temporary file that the error keeps. -/
  | kept {image : List UInt8} {cause : OsError} {temporary : FileSystem.Temporary}
      (built : job.image used = .ok image)
      (creates : fs.Creates naming (temporaryDirectory job.output) temporary) :
      Ends job naming used fs (.error (.replace (.notRenamed job.output cause temporary)))
        (fs.put temporary.place image)
  /-- The image is built and put at the place of the font file. -/
  | done {image : List UInt8} {place : Location} (built : job.image used = .ok image)
      (replaceable : fs.Replaceable naming job.output place) :
      Ends job naming used fs (.ok (job.report used image)) (fs.put place image)

theorem buildFont_eq (job : Job) (session : Session) :
    (buildFont job.project.settings job.source session).1 = job.image session.used := rfl

theorem ends_run (job : Job) (naming : Naming) (used : IndexSet) (fs : FileSystem) :
    job.Ends naming used fs (job.run naming used fs).result (job.run naming used fs).files := by
  unfold run
  dsimp only
  split
  case h_1 => exact .failed rfl
  case h_2 image built =>
    dsimp only
    obtain ⟨e, failed, none, files⟩ | ⟨cause, temporary, creates, failed, files⟩ |
        ⟨place, replaceable, done, files⟩ := fs.replace_cases naming job.output image
    · rw [failed, files]
      exact .failed none
    · rw [failed, files]
      exact .kept built creates
    · rw [done, files]
      exact .done built replaceable

/-- A job is done if its font can be built and its font file can be replaced. -/
theorem run_of_replaceable {job : Job} {naming : Naming} {used : IndexSet} {fs : FileSystem}
    {image : List UInt8} {place : Location} (built : job.image used = .ok image)
    (replaceable : fs.Replaceable naming job.output place) :
    (job.run naming used fs).result = .ok (job.report used image) ∧
      (job.run naming used fs).files = fs.put place image := by
  obtain ⟨done, files⟩ := replaceable.replace image
  rw [Job.image] at built
  unfold run
  dsimp only
  rw [built]
  dsimp only
  rw [done]
  exact ⟨rfl, files⟩

end Job

/-- An attempt that is prepared does the job. -/
theorem CompileRequest.attempt_of_prepare {r : CompileRequest} {fs : FileSystem} {job : Job}
    (prepared : (r.prepare fs).result = .ok job) (naming : Naming) (used : IndexSet) :
    r.attempt naming used fs = { job.run naming used fs with
      notes := (r.prepare fs).notes ++ (job.run naming used fs).notes } := by
  unfold attempt
  dsimp only
  rw [prepared]

/-- An attempt that cannot be prepared does nothing. -/
theorem CompileRequest.attempt_of_error {r : CompileRequest} {fs : FileSystem} {e : CompileError}
    (failed : (r.prepare fs).result = .error e) (naming : Naming) (used : IndexSet) :
    r.attempt naming used fs = ⟨.error e, (r.prepare fs).notes, used, [], fs⟩ := by
  unfold attempt
  dsimp only
  rw [failed]

/-- An attempt changes nothing and keeps nothing, or it is prepared and ends as the job does. -/
theorem CompileRequest.attempt_cases (r : CompileRequest) (naming : Naming) (used : IndexSet)
    (fs : FileSystem) :
    (∃ e, (r.attempt naming used fs).result = .error e ∧ e.kept? = none ∧
        (r.attempt naming used fs).files = fs) ∨
      ∃ job, (r.prepare fs).result = .ok job ∧ job.Ends naming used fs
        (r.attempt naming used fs).result (r.attempt naming used fs).files := by
  cases prepared : (r.prepare fs).result with
  | error e =>
    have none : e.kept? = none := by
      obtain ⟨_, _, rfl⟩ | ⟨_, _, _, rfl, _⟩ := prepare_error_cases prepared
      · rfl
      · rfl
    rw [attempt_of_error prepared]
    exact Or.inl ⟨e, rfl, none, rfl⟩
  | ok job =>
    rw [attempt_of_prepare prepared]
    dsimp only
    exact Or.inr ⟨job, rfl, job.ends_run naming used fs⟩

theorem result_compileWith (naming : Naming) (r : CompileRequest) (session : Session)
    (fs : FileSystem) :
    (compileWith naming r session fs).result = (r.attempt naming session.used fs).result := by
  rw [compileWith]

theorem files_compileWith (naming : Naming) (r : CompileRequest) (session : Session)
    (fs : FileSystem) :
    (compileWith naming r session fs).files = (r.attempt naming session.used fs).files := by
  rw [compileWith]

/-- What an attempt that succeeds has done. -/
theorem CompileRequest.exists_of_attempt_eq_ok {r : CompileRequest} {naming : Naming}
    {used : IndexSet} {fs : FileSystem} {report : Report}
    (h : (r.attempt naming used fs).result = .ok report) :
    ∃ job image place, (r.prepare fs).result = .ok job ∧ report = job.report used image ∧
      job.image used = .ok image ∧ fs.Replaceable naming job.output place ∧
      (r.attempt naming used fs).files = fs.put place image := by
  obtain ⟨e, failed, _⟩ | ⟨job, prepared, ends⟩ := r.attempt_cases naming used fs
  · exact nomatch failed.symm.trans h
  · rw [h] at ends
    generalize (r.attempt naming used fs).files = files at ends
    cases ends with
    | done built replaceable => exact ⟨job, _, _, prepared, rfl, built, replaceable, rfl⟩

/-- What an attempt that fails has done: nothing, or its error keeps a temporary file with the image
of the job that was asked for. -/
theorem CompileRequest.kept_cases_of_attempt {r : CompileRequest} {naming : Naming}
    {used : IndexSet} {fs : FileSystem} {e : CompileError}
    (h : (r.attempt naming used fs).result = .error e) :
    (e.kept? = none ∧ (r.attempt naming used fs).files = fs) ∨
      ∃ job image cause temporary, (r.prepare fs).result = .ok job ∧ job.image used = .ok image ∧
        e = .replace (.notRenamed job.output cause temporary) ∧
        fs.Creates naming (temporaryDirectory job.output) temporary ∧
        (r.attempt naming used fs).files = fs.put temporary.place image := by
  obtain ⟨e', failed, none, files⟩ | ⟨job, prepared, ends⟩ := r.attempt_cases naming used fs
  · obtain rfl := Except.error.inj (h.symm.trans failed)
    exact Or.inl ⟨none, files⟩
  · rw [h] at ends
    generalize (r.attempt naming used fs).files = files at ends
    cases ends with
    | failed none => exact Or.inl ⟨none, rfl⟩
    | kept built creates => exact Or.inr ⟨job, _, _, _, prepared, built, rfl, creates, rfl⟩

/-- Once its error is dropped, a compilation that has failed has changed nothing. -/
theorem settled_compileWith_of_error {naming : Naming} {r : CompileRequest} {session : Session}
    {fs : FileSystem} {e : CompileError}
    (h : (compileWith naming r session fs).result = .error e) :
    (compileWith naming r session fs).settled = fs := by
  rw [Compilation.settled, h]
  dsimp only
  rw [result_compileWith] at h
  rw [files_compileWith]
  obtain ⟨none, files⟩ | ⟨job, image, cause, temporary, _, _, rfl, creates, files⟩ :=
    CompileRequest.kept_cases_of_attempt h
  · rw [none, files]
  · rw [files]
    exact FileSystem.remove_put_of_free creates.free creates.mayHold.inside image

/-- A compilation that fails leaves the files as they were once its error is dropped. Until then the
same holds unless the complete image could not take the place of the font file: then the error keeps
a temporary file with the image in the directory of the font file, and nothing else has changed. One
that succeeds differs from the files before only in the file to which the reported path leads, and
this file holds the image that is built from the glyph source, all of its reported bytes. -/
theorem compileWith_all_or_nothing (naming : Naming) (r : CompileRequest) (session : Session)
    (fs : FileSystem) :
    let done := compileWith naming r session fs
    (∀ e, done.result = .error e →
      done.settled = fs ∧ (e.kept? = none → done.files = fs) ∧
      ∀ temporary, e.kept? = some temporary →
        ∃ job image cause, (r.prepare fs).result = .ok job ∧
          (buildFont job.project.settings job.source session).1 = .ok image ∧
          e = .replace (.notRenamed job.output cause temporary) ∧
          LeavesTemporary fs done.files job.output image temporary) ∧
    (∀ report, done.result = .ok report →
      ∃ job image place, (r.prepare fs).result = .ok job ∧
        (buildFont job.project.settings job.source session).1 = .ok image ∧
        r.outputPath = .ok report.output ∧ report.size = image.length ∧
        Replaces fs done.files report.output image place) := by
  intro done
  constructor
  · intro e failed
    refine ⟨settled_compileWith_of_error failed, ?_⟩
    rw [result_compileWith] at failed
    rw [files_compileWith]
    obtain ⟨none, files⟩ | ⟨job, image, cause, temporary, prepared, built, rfl, creates, files⟩ :=
      CompileRequest.kept_cases_of_attempt failed
    · exact ⟨fun _ => files, fun _ some => nomatch none.symm.trans some⟩
    · refine ⟨fun none => absurd none (Option.some_ne_none temporary), fun other same => ?_⟩
      obtain rfl := Option.some.inj same
      rw [files]
      exact ⟨job, image, cause, prepared, built, rfl, creates.leavesTemporary image⟩
  · intro report succeeded
    rw [result_compileWith] at succeeded
    rw [files_compileWith]
    obtain ⟨job, image, place, prepared, rfl, built, replaceable, files⟩ :=
      CompileRequest.exists_of_attempt_eq_ok succeeded
    obtain ⟨_, _, _, output, _⟩ := CompileRequest.prepare_cases prepared
    rw [files]
    exact ⟨job, image, place, prepared, built, output, rfl, replaceable.replaces image⟩

/-- A directory with a project file `p`, its glyph source `g` and an old font file `o`. The font
file is replaced. The directory itself is not, and a temporary file is left in it until the error is
dropped. Without a directory for it there is no temporary file. -/
theorem compileWith_all_or_nothing_old_output :
    let content (text : String) : List UInt8 := text.toList.map fun c => UInt8.ofNat c.toNat
    let fs : FileSystem :=
      ⟨[(["p"], .file (content "CHARSET=ASCII\nFONT_WIDTH=8\nFONT_HEIGHT=1\nFONT_FILE=g")),
        (["g"], .file (content "A=00000001")), (["o"], .file [0])], [], by decide⟩
    let compiled (output : String) :=
      compileWith FileSystem.firstFreeName ⟨⟨"p"⟩, some ⟨output⟩, none⟩ .empty fs
    (∃ image place, Replaces fs (compiled "o").files ⟨"o"⟩ image place) ∧
      (∃ image temporary, LeavesTemporary fs (compiled ".").files ⟨"."⟩ image temporary) ∧
      (compiled ".").settled = fs ∧
      (compiled "d/o").files = fs := by
  intro content fs compiled
  have succeeded : (compiled "o").result = .ok ⟨⟨"o"⟩, "FONT", ['A'], 17⟩ := by decide +kernel
  have refused : (compiled ".").result =
      .error (.replace (.notRenamed ⟨"."⟩ .busy ⟨[".tmp000000"], ⟨"/./.tmp000000"⟩⟩)) := by
    decide +kernel
  have absent : (compiled "d/o").result =
      .error (.replace (.noTemporary ⟨"d"⟩ .notFound ⟨"/d/.tmp000000"⟩)) := by
    decide +kernel
  obtain ⟨_, image, place, _, _, _, _, changed⟩ :=
    (compileWith_all_or_nothing _ _ _ _).2 _ succeeded
  obtain ⟨settled, _, kept⟩ := (compileWith_all_or_nothing _ _ _ _).1 _ refused
  obtain ⟨job, image', cause, _, _, same, left⟩ := kept _ rfl
  obtain ⟨_, unchanged, _⟩ := (compileWith_all_or_nothing _ _ _ _).1 _ absent
  rw [← (ReplaceError.notRenamed.inj (CompileError.replace.inj same)).1] at left
  exact ⟨⟨image, place, changed⟩, ⟨image', _, left⟩, settled, unchanged rfl⟩

/-- The font file is to replace the directory that it is in. The compilation fails, but with its
error there is one more file than before, and it holds the complete image. -/
theorem exists_temporary_of_compileWith_error :
    let content (text : String) : List UInt8 := text.toList.map fun c => UInt8.ofNat c.toNat
    let fs : FileSystem :=
      ⟨[(["p"], .file (content "CHARSET=ASCII\nFONT_WIDTH=8\nFONT_HEIGHT=1\nFONT_FILE=g")),
        (["g"], .file (content "A=00000001"))], [], by decide⟩
    let refused := compileWith FileSystem.firstFreeName ⟨⟨"p"⟩, some ⟨"."⟩, none⟩ .empty fs
    refused.result =
        .error (.replace (.notRenamed ⟨"."⟩ .busy ⟨[".tmp000000"], ⟨"/./.tmp000000"⟩⟩)) ∧
      fs.entry? [".tmp000000"] = none ∧
      FileSystem.entry? refused.files [".tmp000000"] =
        some (.file ([0xBF, 0xFF, 1, 0, 8, 1, 1, 255, 255, 255] ++ content "FONT" ++ [0, 0x41, 1])) ∧
      refused.files ≠ fs := by
  intro content fs refused
  obtain ⟨failed, free, file⟩ : refused.result =
        .error (.replace (.notRenamed ⟨"."⟩ .busy ⟨[".tmp000000"], ⟨"/./.tmp000000"⟩⟩)) ∧
      fs.entry? [".tmp000000"] = none ∧
      FileSystem.entry? refused.files [".tmp000000"] =
        some (.file
          ([0xBF, 0xFF, 1, 0, 8, 1, 1, 255, 255, 255] ++ content "FONT" ++ [0, 0x41, 1])) := by
    decide +kernel
  refine ⟨failed, free, file, fun same => ?_⟩
  rw [same] at file
  exact nomatch free.symm.trans file

end BitmapFont
