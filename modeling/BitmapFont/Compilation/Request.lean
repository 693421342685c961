import BitmapFont.Project.Basic

/-!
# Compilation requests

What is to be compiled, and where the font file goes.

## Main definitions

- `CompileRequest` — a project file, and how its paths are to be taken
- `CompileRequest.outputPath` — the path of the font file
-/

namespace BitmapFont

/-- A project file to compile. Paths are seen from the working directory. -/
structure CompileRequest where
  project : Path
  /-- The font file. It goes with the project file if none is given. -/
  output : Option Path
  /-- The directory from which paths are seen, if it is not the current one. -/
  workingDir : Option Path
  deriving DecidableEq

namespace CompileRequest

/-- The extension of font files. -/
def outputExtension : String := "bff"

/-- The directory from which paths are seen. -/
def baseDir (r : CompileRequest) : Path := r.workingDir.getD ⟨""⟩

/-- The path of the project file. -/
def projectPath (r : CompileRequest) : Path := r.baseDir.join r.project

/-- The path of the font file. -/
def outputPath (r : CompileRequest) : Except ProjectError Path :=
  match r.output with
  | some output => .ok (r.baseDir.join output)
  | none =>
    match r.project.withExtension? outputExtension with
    | some output => .ok (r.baseDir.join output)
    | none => .error (.noFileName r.project)

end CompileRequest

end BitmapFont
