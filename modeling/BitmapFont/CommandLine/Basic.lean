import BitmapFont.CommandLine.Invocation
import BitmapFont.Compilation.Basic
import BitmapFont.Image.Reader

/-!
# Command line

What the program does with its arguments. It compiles a project and logs to standard error; the
exit code tells whether it succeeded.

## Main definitions

- `Outcome` — what the program has printed and written
- `CommandLine.run` — what the program does
-/

namespace BitmapFont

/-- A line on standard error: one of the program's own, or a record of the log. -/
inductive ErrorLine
  | plain (text : String)
  | record (r : LogRecord)
  deriving DecidableEq

/-- What the program does. The lines on standard error depend on the number of microseconds that
the compilation takes. -/
structure Outcome where
  exitCode : UInt8
  stdout : String
  stderr : Nat → List ErrorLine
  files : FileSystem

namespace CommandLine

/-- The line that tells how the program is used. -/
def usage : ErrorLine := .plain "Usage: bff_compiler [PROJECT]"

/-- The records that describe the font file that was written. -/
def reloadRecords (output : Path) (fs : FileSystem) : List LogRecord :=
  let font : Except String Font :=
    match fs.read output with
    | .error e => .error e.message
    | .ok content => (Image.read content).mapError Image.ReadError.message
  ⟨.debug, .commandLine, s!"Reloading '{output.text}'..."⟩ ::
    match font with
    | .ok font => font.statistics.map fun line => ⟨.info, .fontStatistics, line⟩
    | .error e => [⟨.warn, .commandLine, s!"Could not reload {output.text}: {e}"⟩]

/-- The records of a compilation that took a number of microseconds. The font file is described
only if the filter shows details. -/
def records (filter : LogFilter) (done : Compilation) (micros : Nat) : List LogRecord :=
  let closing := match done.result with
    | .error _ => []
    | .ok report =>
      (report.statistics micros).map (fun line => ⟨.info, .compiler, line⟩)
        ++ if filter.enabled .commandLine .debug then reloadRecords report.output done.files
          else []
  ⟨.info, .commandLine, "Bitmap Font File Compiler v0.1.0"⟩ :: done.log ++ closing

/-- What the program does with a project. The outcome of the compilation is dropped before the
program ends. -/
def compileProject (path : Path) (filter : LogFilter) (fs : FileSystem) : Outcome :=
  if fs.isFile path then
    let done := compile ⟨path, none, none⟩ .empty fs
    { exitCode := if done.result.isOk then 0 else 1
      stdout := ""
      stderr := fun micros => ((records filter done micros).filter filter.shows).map .record
      files := done.settled }
  else
    ⟨1, "", fun _ => [.plain s!"File {path.text} not found.", usage], fs⟩

/-- What the program does with its arguments. -/
def answer (arguments : List String) (filter : LogFilter) (fs : FileSystem) : Outcome :=
  match Invocation.parse arguments with
  | .help => ⟨0, Invocation.helpText, fun _ => [], fs⟩
  | .version => ⟨0, Invocation.versionText, fun _ => [], fs⟩
  | .refused fault => ⟨2, "", fun _ => fault.lines.map .plain, fs⟩
  | .noProject => ⟨1, "", fun _ => [usage], fs⟩
  | .project path => compileProject path filter fs

/-- What the program does with its arguments and the user's setting for the log. Warnings about the
setting come first. -/
def run (arguments : List String) (logSetting : Option String) (fs : FileSystem) : Outcome :=
  let (filter, warnings) := LogFilter.ofSetting logSetting
  let outcome := answer arguments filter fs
  { outcome with stderr := fun micros => warnings.map .plain ++ outcome.stderr micros }

end CommandLine

end BitmapFont
