import BitmapFont.Assembly
import BitmapFont.Compilation.Report
import BitmapFont.Compilation.Request
import BitmapFont.FileSystem.Replacement
import BitmapFont.Project.Resolution
import BitmapFont.Text.Utf8

/-!
# Compilations

A compilation reads a project file and its glyph source and writes the font file. The font file is
replaced only when its new content is complete. A compilation that fails leaves every file as it
was, but if the new content is complete and cannot take the place of the font file, it stays in a
temporary file for as long as the error is kept.

## Main definitions

- `CompileRequest.prepare` — reads what a request is about
- `Job.run` — builds the font and writes it
- `compileWith` — a compilation as a whole, in a session, with a way to name temporary files
- `compile` — a compilation whose temporary file gets the first name that is not taken
- `Compilation.settled` — the files once the outcome of a compilation is dropped
-/

namespace BitmapFont

/-- Why a compilation fails. -/
inductive CompileError
  | unreadable (path : Path) (cause : OsError)
  | project (cause : ProjectError)
  | build (cause : AssemblyError GlyphError)
  | replace (cause : ReplaceError)
  deriving DecidableEq

namespace CompileError

/-- The text of an error, followed by the texts of its causes. -/
def chain : CompileError → List String
  | unreadable path cause => [s!"Could not read {path.text}", cause.message]
  | project cause => [cause.message]
  | build cause => cause.chain GlyphError.chain
  | replace cause => cause.chain

/-- The text of an error together with its causes. -/
def message (e : CompileError) : String :=
  ": ".intercalate e.chain

/-- The temporary file that an error keeps. -/
def kept? : CompileError → Option FileSystem.Temporary
  | unreadable .. | project _ | build _ => none
  | replace cause => cause.kept?

end CompileError

/-- The text of a file. -/
def readText (fs : FileSystem) (path : Path) : Except CompileError String :=
  match fs.read path with
  | .ok content => .ok (Text.decodeFile content)
  | .error cause => .error (.unreadable path cause)

/-- A project whose glyph source has been read and whose font file is chosen. -/
structure Job where
  project : Project
  output : Path
  source : String

/-- The job that a request amounts to. -/
def CompileRequest.prepare (r : CompileRequest) (fs : FileSystem) : Noted CompileError Job := do
  let text ← .ofExcept (readText fs r.projectPath)
  let (directives, notes) := Directives.ofText text
  .noteAll notes
  let project ← (Project.resolve directives r.projectPath r.baseDir fs).mapError .project
  let output ← .ofExcept (r.outputPath.mapError .project)
  if fs.contains output then
    .note (.warn none s!"File {output.text} already exists. The file will be overwritten.")
  let source ← .ofExcept (readText fs project.glyphFile)
  return ⟨project, output, source⟩

/-- The log record about a temporary file of a number of bytes. -/
def writingRecord (size : Nat) (path : Path) : LogRecord :=
  ⟨.debug, .compiler, s!"Writing {size} bytes to '{path.text}'"⟩

/-- A compilation so far: its outcome, its remarks, the indices in use after it, what the log
tells about the writing, and the files after it. -/
structure Attempt where
  result : Except CompileError Report
  notes : List Diagnostic
  used : IndexSet
  log : List LogRecord
  files : FileSystem

/-- Does a job, after the given indices have been defined. -/
def Job.run (job : Job) (naming : FileSystem.Naming) (used : IndexSet) (fs : FileSystem) :
    Attempt :=
  let settings := job.project.settings
  let reading := GlyphSource.readText settings job.source used
  match assemble settings reading.items with
  | .error e => ⟨.error (.build e), reading.notes, reading.used, [], fs⟩
  | .ok image =>
    let written := fs.replace naming job.output image
    let report : Report :=
      ⟨job.output, settings.name, settings.charset.decodeAll reading.used.order, image.length⟩
    { result := (written.result.map fun _ => report).mapError .replace
      notes := reading.notes
      used := reading.used
      log := written.temporary.toList.map (writingRecord image.length)
      files := written.files }

/-- Compiles what a request asks for, after the given indices have been defined. -/
def CompileRequest.attempt (r : CompileRequest) (naming : FileSystem.Naming) (used : IndexSet)
    (fs : FileSystem) : Attempt :=
  let prepared := r.prepare fs
  match prepared.result with
  | .error e => ⟨.error e, prepared.notes, used, [], fs⟩
  | .ok job =>
    let done := job.run naming used fs
    { done with notes := prepared.notes ++ done.notes }

/-- A compilation: its outcome, the session after it, its log, and the files after it. With an error
the files have the temporary file that it keeps. -/
structure Compilation where
  result : Except CompileError Report
  session : Session
  log : List LogRecord
  files : FileSystem

/-- The files once the outcome of a compilation is dropped. The temporary file that an error keeps
is deleted then. -/
def Compilation.settled (done : Compilation) : FileSystem :=
  match done.result with
  | .ok _ => done.files
  | .error e =>
    match e.kept? with
    | none => done.files
    | some temporary => done.files.remove temporary.place

/-- Compiles what a request asks for, with a way to name temporary files. An error is also the last
diagnostic. -/
def compileWith (naming : FileSystem.Naming) (r : CompileRequest) (session : Session)
    (fs : FileSystem) : Compilation :=
  let start : LogRecord := ⟨.info, .compiler, s!"Compiling project '{r.project.text}'..."⟩
  let done := r.attempt naming session.used fs
  let failure := match done.result with
    | .ok _ => []
    | .error e => [Diagnostic.fatal e.message]
  { result := done.result
    session := ⟨session.diagnostics.append (done.notes ++ failure), done.used⟩
    log := start :: done.notes.map (·.logRecord) ++ done.log ++ failure.map (·.logRecord)
    files := done.files }

/-- Compiles what a request asks for. -/
def compile (r : CompileRequest) (session : Session) (fs : FileSystem) : Compilation :=
  compileWith FileSystem.firstFreeName r session fs

end BitmapFont
