import BitmapFont.FileSystem.Basic
import BitmapFont.Project.Basic

/-!
# Glyph files

A project names the file that defines its glyphs, or leaves it to go with the project file. It is
looked for in the working directory first and then next to the project file.

## Main definitions

- `Project.requestedFile` — the file that a project asks for
- `Project.locate` — the path under which it is found
-/

namespace BitmapFont

namespace Project

/-- The glyph source that a project asks for. Without a request it is the file that goes with the
project file. -/
def requestedFile (directives : Directives) (projectPath : Path) : Noted ProjectError Path :=
  match (value? directives .fontFile).filter (· ≠ "") with
  | some file => return ⟨file⟩
  | none =>
    match projectPath.withExtension? glyphExtension with
    | none => .fail (.noFileName projectPath)
    | some file => do
      .note (.warn none s!"FONT_FILE is not set. Trying {file.text}")
      return file

/-- A path as seen from the directory of the project file. -/
def besideProject (projectPath file : Path) : Path :=
  (projectPath.parent?.getD ⟨""⟩).join file

/-- The glyph source of a project: the requested file as seen from the working directory, or else,
if the request is relative, as seen from the directory of the project file. -/
def locate (directives : Directives) (projectPath workingDir : Path) (fs : FileSystem) :
    Noted ProjectError Path := do
  let file ← requestedFile directives projectPath
  let path := workingDir.join file
  let fallback := besideProject projectPath file
  if fs.isFile path then
    .note (.info s!"FONT_FILE:{path.text}")
    return path
  else if !file.isAbsolute && fallback.components != path.components && fs.isFile fallback then
    .note (.warn none
      s!"Font file {path.text} not found. Using {fallback.text} next to the project file.")
    .note (.info s!"FONT_FILE:{fallback.text}")
    return fallback
  else .fail (.glyphFileNotFound path)

end Project

end BitmapFont
