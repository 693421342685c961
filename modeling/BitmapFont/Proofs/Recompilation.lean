import BitmapFont.Proofs.FatalRemarks
import BitmapFont.Proofs.FileSystem.Overwriting
import BitmapFont.Proofs.Project

/-!
# Compiling again

A compilation reads the project file and its glyph source and asks whether there is a glyph source
in the working directory. If the font file is none of these, then what it held before does not
matter, so the same can be compiled again with the same outcome. Only the remark that there is a
file already depends on it.

## Main definitions

- `CompileRequest.Consults` — the paths under which a compilation looks for its input
- `existsNote` — the remark on a font file that exists already
-/

namespace BitmapFont

open FileSystem (Naming AgreeExcept temporaryDirectory)

/-- The remark on a font file that exists already. -/
def existsNote (output : Path) : Diagnostic :=
  .warn none s!"File {output.text} already exists. The file will be overwritten."

/-- The remark on a font file, if it exists already. -/
def existsNotes (fs : FileSystem) (output : Path) : List Diagnostic :=
  if fs.contains output then [existsNote output] else []

/-- The paths under which a compilation looks for its input: the project file, the glyph source as
it is seen from the working directory, and the glyph source that is used. -/
inductive CompileRequest.Consults (r : CompileRequest) (fs : FileSystem) : Path → Prop
  | project : Consults r fs r.projectPath
  | requested {text : String} {file : Path} (readable : readText fs r.projectPath = .ok text)
      (asked : (Project.requestedFile (Directives.ofText text).1 r.projectPath).result = .ok file) :
      Consults r fs (r.baseDir.join file)
  | glyphFile {job : Job} (prepared : (r.prepare fs).result = .ok job) :
      Consults r fs job.project.glyphFile

variable {r : CompileRequest} {fs fs' : FileSystem}

theorem existsNote_not_onLine (output : Path) : ¬ (existsNote output).OnLine :=
  fun onLine => absurd onLine.1 Bool.false_ne_true

theorem existsNote_not_remark (output : Path) : ¬ Project.Remark (existsNote output) := by
  intro remark
  generalize same : existsNote output = d at remark
  have start := congrArg (fun d => d.message.toList.take 2) same
  cases remark with
  | settled message => exact nomatch congrArg Diagnostic.level same
  | noGlyphFile file => simp [existsNote, Diagnostic.warn, toString] at start
  | besideProject path fallback => simp [existsNote, Diagnostic.warn, toString] at start
  | notByte key value => simp [existsNote, Diagnostic.warn, toString] at start
  | notStorable name stored => simp [existsNote, Diagnostic.warn, toString] at start

theorem readText_congr {path : Path} {text : String}
    (same : ∀ content, fs'.read path = .ok content ↔ fs.read path = .ok content)
    (h : readText fs path = .ok text) : readText fs' path = .ok text := by
  obtain ⟨content, found, decoded⟩ := readText_eq_ok_iff.1 h
  exact readText_eq_ok_iff.2 ⟨content, (same content).2 found, decoded⟩

/-- A glyph source is located in the same way if the same files are found on the way to it. -/
theorem Project.locate_congr {directives : Directives} {projectPath workingDir path : Path}
    (located : (locate directives projectPath workingDir fs).result = .ok path)
    (first : ∀ file, (requestedFile directives projectPath).result = .ok file →
      fs'.isFile (workingDir.join file) = fs.isFile (workingDir.join file))
    (used : fs'.isFile path = fs.isFile path) :
    locate directives projectPath workingDir fs' = locate directives projectPath workingDir fs := by
  obtain ⟨file, asked, found⟩ := Noted.bind_eq_ok_iff.1 located
  dsimp only at found
  unfold locate
  rw [Noted.bind_eq_of_ok asked, Noted.bind_eq_of_ok asked]
  dsimp only
  rw [first file asked]
  split at found
  case isTrue here => rw [if_pos here, if_pos here]
  case isFalse notHere =>
    rw [if_neg notHere, if_neg notHere]
    split at found
    case isTrue beside =>
      obtain rfl : besideProject projectPath file = path := by
        exact Except.ok.inj found
      rw [used]
    case isFalse => exact nomatch found

theorem Project.resolve_congr_files {directives : Directives} {projectPath workingDir : Path}
    (same : locate directives projectPath workingDir fs' =
      locate directives projectPath workingDir fs) :
    resolve directives projectPath workingDir fs' =
      resolve directives projectPath workingDir fs := by
  unfold resolve
  rw [same]

/-- All that is remarked when a request is prepared and every step succeeds. -/
theorem CompileRequest.prepare_eq {text : String} {job : Job}
    (readable : readText fs r.projectPath = .ok text)
    (resolved : (Project.resolve (Directives.ofText text).1 r.projectPath r.baseDir fs).result =
      .ok job.project)
    (chosen : r.outputPath = .ok job.output)
    (source : readText fs job.project.glyphFile = .ok job.source) :
    r.prepare fs = ⟨(Directives.ofText text).2 ++
      ((Project.resolve (Directives.ofText text).1 r.projectPath r.baseDir fs).notes ++
        existsNotes fs job.output), .ok job⟩ := by
  have project : ((Project.resolve (Directives.ofText text).1 r.projectPath r.baseDir fs).mapError
      CompileError.project).result = .ok job.project := by
    rw [Noted.result_mapError, resolved]
    rfl
  have output : (Noted.ofExcept (r.outputPath.mapError CompileError.project)).result =
      .ok job.output := by
    rw [Noted.result_ofExcept, chosen]
    rfl
  have last : (do
      let source ← .ofExcept (readText fs job.project.glyphFile)
      return ⟨job.project, job.output, source⟩ : Noted CompileError Job) = ⟨[], .ok job⟩ := by
    rw [Noted.bind_eq_of_ok (x := .ofExcept (readText fs job.project.glyphFile)) source]
    rfl
  unfold prepare existsNotes
  rw [Noted.bind_eq_of_ok (x := .ofExcept (readText fs r.projectPath)) readable]
  dsimp only
  rw [Noted.bind_eq_of_ok (Noted.result_noteAll _), Noted.bind_eq_of_ok project,
    Noted.bind_eq_of_ok output]
  dsimp only
  split
  case isTrue =>
    rw [Noted.bind_eq_of_ok (Noted.result_note _), last]
    simp [existsNote]
  case isFalse =>
    rw [last]
    simp

/-- A request is prepared again from the same input, with the same remarks but for the one on the
font file. -/
theorem CompileRequest.prepare_again {job : Job} (prepared : (r.prepare fs).result = .ok job) :
    ∃ notes, existsNote job.output ∉ notes ∧ ∀ fs' : FileSystem,
      (∀ p, r.Consults fs p → ∀ content, fs'.read p = .ok content ↔ fs.read p = .ok content) →
        r.prepare fs' = ⟨notes ++ existsNotes fs' job.output, .ok job⟩ := by
  obtain ⟨text, readable, resolved, chosen, source⟩ := prepare_cases prepared
  refine ⟨(Directives.ofText text).2 ++
    (Project.resolve (Directives.ofText text).1 r.projectPath r.baseDir fs).notes, ?_, ?_⟩
  · intro mem
    obtain line | project := List.mem_append.1 mem
    · exact existsNote_not_onLine _ (Directives.onLine_of_scan _ line)
    · exact existsNote_not_remark _ (Project.remarks_resolve _ _ _ _ _ project)
  · intro fs' same
    obtain ⟨located, _⟩ := Project.resolve_eq_ok_iff.1 resolved
    have again : Project.resolve (Directives.ofText text).1 r.projectPath r.baseDir fs' =
        Project.resolve (Directives.ofText text).1 r.projectPath r.baseDir fs := by
      apply Project.resolve_congr_files
      apply Project.locate_congr located
      · intro file asked
        exact FileSystem.isFile_congr (same _ (.requested readable asked))
      · exact FileSystem.isFile_congr (same _ (.glyphFile prepared))
    have readable' := readText_congr (same _ .project) readable
    have source' := readText_congr (same _ (.glyphFile prepared)) source
    rw [← again] at resolved ⊢
    rw [prepare_eq readable' resolved chosen source', List.append_assoc]

theorem existsNotes_of_walk {output : Path} {place : Location} (h : fs.walk output = .ok place) :
    existsNotes fs output = [existsNote output] := by
  rw [existsNotes, FileSystem.contains, h]
  rfl

/-- What a compilation does with a request that is prepared, if its font can be built and its font
file can be replaced. -/
theorem compileWith_of_replaceable {naming : Naming} {session : Session} {job : Job}
    {notes : List Diagnostic} {image : List UInt8} {place : Location}
    (prepared : r.prepare fs = ⟨notes, .ok job⟩)
    (built : job.image session.used = .ok image)
    (replaceable : fs.Replaceable naming job.output place) :
    (compileWith naming r session fs).result = .ok (job.report session.used image) ∧
      (compileWith naming r session fs).files = fs.put place image ∧
      (compileWith naming r session fs).session.diagnostics.entries =
        session.diagnostics.entries ++ (notes ++
          (GlyphSource.readText job.project.settings job.source session.used).notes) := by
  have attempt := CompileRequest.attempt_of_prepare (congrArg Noted.result prepared) naming
    session.used
  obtain ⟨done, files⟩ := job.run_of_replaceable built replaceable
  have result : (compileWith naming r session fs).result = .ok (job.report session.used image) := by
    rw [result_compileWith, attempt]
    dsimp only
    exact done
  refine ⟨result, ?_, ?_⟩
  · rw [files_compileWith, attempt]
    dsimp only
    exact files
  · rw [diagnostics_compileWith, Compilation.failure, result, attempt]
    dsimp only
    rw [job.notes_run, prepared, List.append_nil]

/-- Where a request can be prepared and its font file can be replaced, the font file does not matter
to the outcome: with another one the same is done, with the same remarks but for the one on it. -/
theorem compileWith_of_agreeExcept {naming : Naming} (again : Naming) {session : Session}
    {job : Job} {image : List UInt8} {place : Location}
    (prepared : (r.prepare fs).result = .ok job)
    (built : job.image session.used = .ok image)
    (replaceable : fs.Replaceable naming job.output place)
    (apart : ∀ p, r.Consults fs p → ¬ (fs.put place image).SamePlace job.output p) :
    ∃ notes, existsNote job.output ∉ notes ∧
      r.prepare fs = ⟨notes ++ existsNotes fs job.output, .ok job⟩ ∧
      ∀ other, AgreeExcept place fs other → other.entry? place ≠ some .directory →
        again.FindsName other (temporaryDirectory job.output) →
        let done := compileWith again r session other
        done.result = .ok (job.report session.used image) ∧ done.files = other.put place image ∧
          done.session.diagnostics.entries = session.diagnostics.entries ++
            ((notes ++ existsNotes other job.output) ++
              (GlyphSource.readText job.project.settings job.source session.used).notes) := by
  obtain ⟨notes, unseen, prepare⟩ := CompileRequest.prepare_again prepared
  refine ⟨notes, unseen, prepare fs fun _ _ _ => Iff.rfl, ?_⟩
  intro other agree noDirectory finds
  have input (p : Path) (consulted : r.Consults fs p) :=
    (replaceable.replaces image).read_eq_ok_iff agree noDirectory (apart p consulted)
  exact compileWith_of_replaceable (prepare other input) built
    (replaceable.again agree noDirectory finds)

/-- Compiling the same again gives the same report and the same files, and the same remarks but for
the one on the font file, which is made exactly if there is one already. This holds as long as the
font file is none of the files in which the input is looked for, and a name is found for the
temporary file. Then the image is also the same whatever the font file held before. -/
theorem compileWith_again {naming : Naming} (again : Naming) {r : CompileRequest}
    {fs : FileSystem} {report : Report}
    (succeeded : (compileWith naming r .empty fs).result = .ok report)
    (apart : ∀ p, r.Consults fs p →
      ¬ (compileWith naming r .empty fs).files.SamePlace report.output p) :
    ∃ (place : Location) (image : List UInt8) (before after : List Diagnostic),
      let first := compileWith naming r .empty fs
      first.files.walk report.output = .ok place ∧
      first.files.read report.output = .ok image ∧
      first.session.diagnostics.entries = before ++ existsNotes fs report.output ++ after ∧
      existsNote report.output ∉ before ++ after ∧
      (again.FindsName first.files (temporaryDirectory report.output) →
        let second := compileWith again r .empty first.files
        second.result = .ok report ∧ second.files = first.files ∧
          second.session.diagnostics.entries = before ++ [existsNote report.output] ++ after) ∧
      ∀ other, AgreeExcept place fs other → other.entry? place ≠ some .directory →
        again.FindsName other (temporaryDirectory report.output) →
        let done := compileWith again r .empty other
        done.result = .ok report ∧ done.files.read report.output = .ok image ∧
          done.session.diagnostics.entries =
            before ++ existsNotes other report.output ++ after := by
  have attempted := (result_compileWith naming r .empty fs).symm.trans succeeded
  obtain ⟨job, image, place, prepared, rfl, built, replaceable, files⟩ :=
    CompileRequest.exists_of_attempt_eq_ok attempted
  have replaced := replaceable.replaces image
  have firstFiles : (compileWith naming r .empty fs).files = fs.put place image :=
    (files_compileWith naming r .empty fs).trans files
  rw [firstFiles] at apart
  obtain ⟨before, unseen, prepare, instead⟩ :=
    compileWith_of_agreeExcept again prepared built replaceable apart
  let after := (GlyphSource.readText job.project.settings job.source Session.empty.used).notes
  refine ⟨place, image, before, after, ?_⟩
  intro first
  rw [show first.files = fs.put place image from firstFiles]
  refine ⟨replaced.walk, replaced.read,
    (compileWith_of_replaceable prepare built replaceable).2.2, ?_, ?_, ?_⟩
  · intro mem
    obtain inBefore | inAfter := List.mem_append.1 mem
    · exact unseen inBefore
    · exact existsNote_not_onLine _ (GlyphSource.onLine_of_readLines _ inAfter)
  · intro finds second
    have noDirectory : FileSystem.entry? (fs.put place image) place ≠ some .directory := by
      rw [replaced.file]
      exact nofun
    obtain ⟨result, files, notes⟩ := instead _ replaced.agree noDirectory finds
    have same := FileSystem.put_put (FileSystem.mayHold_of_renameTarget replaceable.target)
      image image
    refine ⟨result, files.trans same, ?_⟩
    rw [notes, existsNotes_of_walk replaced.walk]
    rfl
  · intro other agree noDirectory finds done
    obtain ⟨result, files, notes⟩ := instead other agree noDirectory finds
    refine ⟨result, ?_, notes⟩
    rw [show done.files = other.put place image from files]
    exact ((replaceable.again agree noDirectory finds).replaces image).read

/-- The project file and its glyph source are in a directory, the font file is not. So the glyph
source beside the project file is used both times, and also where there was an old font file. -/
theorem compileWith_again_glyphs_beside_project :
    let content (text : String) : List UInt8 := text.toList.map fun c => UInt8.ofNat c.toNat
    let text := "CHARSET=ASCII\nFONT_WIDTH=8\nFONT_HEIGHT=1\nFONT_FILE=g"
    let fs : FileSystem :=
      ⟨[(["d"], .directory), (["d", "p"], .file (content text)),
        (["d", "g"], .file (content "A=00000001"))], [], by decide⟩
    let r : CompileRequest := ⟨⟨"d/p"⟩, none, none⟩
    let first := compileWith FileSystem.firstFreeName r .empty fs
    let second := compileWith FileSystem.firstFreeName r .empty first.files
    let old := fs.put ["p.bff"] [0]
    let done := compileWith FileSystem.firstFreeName r .empty old
    first.result = .ok ⟨⟨"p.bff"⟩, "FONT", ['A'], 17⟩ ∧ second.result = first.result ∧
      second.files = first.files ∧ done.result = first.result ∧
      done.files.read ⟨"p.bff"⟩ = first.files.read ⟨"p.bff"⟩ ∧
      ∃ before after, existsNote ⟨"p.bff"⟩ ∉ before ++ after ∧
        first.session.diagnostics.entries = before ++ after ∧
        second.session.diagnostics.entries = before ++ [existsNote ⟨"p.bff"⟩] ++ after ∧
        done.session.diagnostics.entries = second.session.diagnostics.entries := by
  intro content text fs r first second old done
  -- The first compilation is run only once.
  obtain ⟨succeeded, written, elsewhere, few⟩ :
      first.result = .ok ⟨⟨"p.bff"⟩, "FONT", ['A'], 17⟩ ∧
        first.files.walk ⟨"p.bff"⟩ = .ok ["p.bff"] ∧
        (∀ p ∈ ([⟨"d/p"⟩, ⟨"g"⟩, ⟨"d/g"⟩] : List Path), first.files.walk p ≠ .ok ["p.bff"]) ∧
        first.files.entries.length < 1000000 := by
    decide +kernel
  have project : readText fs r.projectPath = .ok text := by decide +kernel
  have requested : (Project.requestedFile (Directives.ofText text).1 r.projectPath).result =
      .ok ⟨"g"⟩ := by decide +kernel
  have used : (r.prepare fs).result.map (·.project.glyphFile) = .ok ⟨"d/g"⟩ := by decide +kernel
  have apart : ∀ p, r.Consults fs p → ¬ first.files.SamePlace ⟨"p.bff"⟩ p := by
    rintro p consulted ⟨place, output, led⟩
    obtain rfl := Except.ok.inj (written.symm.trans output)
    refine elsewhere p ?_ led
    cases consulted with
    | project => decide
    | requested readable asked =>
      obtain rfl := Except.ok.inj (project.symm.trans readable)
      obtain rfl := Except.ok.inj (requested.symm.trans asked)
      decide
    | @glyphFile job prepared =>
      rw [prepared] at used
      have same : job.project.glyphFile = ⟨"d/g"⟩ := Except.ok.inj used
      rw [same]
      decide
  have absent : existsNotes fs ⟨"p.bff"⟩ = [] := by decide +kernel
  have present : existsNotes old ⟨"p.bff"⟩ = [existsNote ⟨"p.bff"⟩] := by decide +kernel
  obtain ⟨place, image, before, after, led, read, start, unseen, again, instead⟩ :=
    compileWith_again FileSystem.firstFreeName succeeded apart
  obtain rfl := Except.ok.inj (written.symm.trans led)
  obtain ⟨result, files, notes⟩ := again (FileSystem.findsName_firstFreeName few _)
  have mayHold : fs.MayHold ["p.bff"] := ⟨by decide, by decide⟩
  obtain ⟨resultOld, readOld, notesOld⟩ :=
    instead old (FileSystem.agreeExcept_put mayHold [0]) (by decide)
      (FileSystem.findsName_firstFreeName (by decide) _)
  rw [absent, List.append_nil] at start
  rw [present] at notesOld
  exact ⟨succeeded, result.trans succeeded.symm, files, resultOld.trans succeeded.symm,
    readOld.trans read.symm, before, after, unseen, start, notes, notesOld.trans notes.symm⟩

end BitmapFont
