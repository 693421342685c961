import BitmapFont.FileSystem.Basic
import BitmapFont.Text.Quoted

/-!
# Replacing files

A file is replaced by way of a temporary file in the same directory, which takes the name of the
file once it holds the whole content. So the file never holds a part of it. If the temporary file
cannot take the name, the error keeps it, and it is deleted when the error is dropped.

The names of temporary files are drawn at random. Which ones are drawn is left open.

## Main definitions

- `FileSystem.Naming`, `FileSystem.firstFreeName` — ways to name temporary files, and one of them
- `FileSystem.createTemporary`, `FileSystem.rename` — the two steps of a replacement
- `FileSystem.replace` — a replacement as a whole
- `ReplaceError.kept?` — the temporary file that an error keeps
-/

namespace BitmapFont

namespace FileSystem

/-- Whether a name is one for temporary files, a fixed start with six letters or digits after it. -/
def IsTemporaryName (name : String) : Prop :=
  ∃ suffix : List Char, suffix.length = 6 ∧ (∀ c ∈ suffix, c.isAlphanum = true) ∧
    name.toList = ['.', 't', 'm', 'p'] ++ suffix

/-- A way to name temporary files: the names that are drawn for a new one, in their order, and how
many of them are tried. -/
structure Naming where
  name : Nat → String
  tries : Nat
  tries_pos : 0 < tries
  isTemporary : ∀ n, IsTemporaryName (name n)

/-- The first of several names, beginning with the `n`-th, that is not taken in a directory. -/
def Naming.freeNameFrom? (naming : Naming) (fs : FileSystem) (directory : Location) :
    Nat → Nat → Option String
  | 0, _ => none
  | tries + 1, n =>
    if (fs.entry? (directory ++ [naming.name n])).isNone then some (naming.name n)
    else naming.freeNameFrom? fs directory tries (n + 1)

/-- The name of a new temporary file in a directory, if one that is tried is not taken. -/
def Naming.freeName? (naming : Naming) (fs : FileSystem) (directory : Location) : Option String :=
  naming.freeNameFrom? fs directory naming.tries 0

/-- The names for temporary files that end in digits, in their order. They begin again after a
million of them. -/
def temporaryName (n : Nat) : String :=
  ".tmp" ++ Text.paddedDigits 10 6 (n % 1000000)

theorem isTemporaryName_temporaryName (n : Nat) : IsTemporaryName (temporaryName n) := by
  let figures := Nat.toDigits 10 (n % 1000000)
  have short : figures.length ≤ 6 :=
    (Nat.length_toDigits_le_iff (by decide) (by decide)).2 (Nat.mod_lt n (by decide))
  refine ⟨List.replicate (6 - figures.length) '0' ++ figures, ?_, fun c hc => ?_, ?_⟩
  · rw [List.length_append, List.length_replicate, Nat.sub_add_cancel short]
  · obtain zero | digit := List.mem_append.1 hc
    · rw [List.eq_of_mem_replicate zero]
      rfl
    · have isDigit := Nat.isDigit_of_mem_toDigits (by decide) (by decide) digit
      rw [Char.isAlphanum, isDigit, Bool.or_true]
  · rw [temporaryName, String.toList_append]
    exact congrArg _ String.toList_ofList

/-- Tries the names that end in digits. -/
def firstFreeName : Naming where
  name := temporaryName
  tries := 1000000
  tries_pos := by decide
  isTemporary := isTemporaryName_temporaryName

/-- A temporary file: its place, and its path from the root. -/
structure Temporary where
  place : Location
  path : Path
  deriving DecidableEq

/-- The directory that a path leads to. -/
def findDirectory (fs : FileSystem) (p : Path) : Except OsError Location := do
  let place ← fs.follow (fs.origin p) (Text.pieces '/' p.text.toList)
  fs.requireDirectory place
  return place

/-- Creates a file with a new name in a directory. An error comes with the path of the file that
could not be created, or with that of the directory if it has no name left. -/
def createTemporary (fs : FileSystem) (naming : Naming) (directory : Path) (content : List UInt8) :
    Except (OsError × Path) (Temporary × FileSystem) :=
  let base := (absolutePath fs.current).join directory
  let first := base.join ⟨naming.name 0⟩
  match checkPath first *> fs.findDirectory directory with
  | .error e => .error (e, first)
  | .ok place =>
    match naming.freeName? fs place with
    | none => .error (.namesTaken, base)
    | some name =>
      .ok (⟨place ++ [name], base.join ⟨name⟩⟩, fs.put (place ++ [name]) content)

/-- The place that a path gives to a new name for a file. The path must end in a name, without a
slash after it, and the place must not be a directory. A zero character in the path is an invalid
argument. -/
def renameTarget (fs : FileSystem) (p : Path) : Except OsError Location := do
  if '\x00' ∈ p.text.toList then throw .invalidArgument
  checkPath p
  let segments := Text.pieces '/' p.text.toList
  let slashes := segments.reverse.takeWhile (· = [])
  match segments.reverse.dropWhile (· = []) with
  | [] => throw .busy
  | last :: before =>
    let directory ← fs.follow (fs.origin p) before.reverse
    fs.requireDirectory directory
    if last = ['.'] ∨ last = ['.', '.'] then throw .busy
    let place ← child directory last
    if slashes ≠ [] then throw .notDirectory
    if fs.entry? place = some .directory then throw .isDirectory
    return place

/-- Gives a file a new name, under which another file is replaced. -/
def rename (fs : FileSystem) (source : Location) (target : Path) : Except OsError FileSystem := do
  let place ← fs.renameTarget target
  match fs.entry? source with
  | some (.file content) => return (fs.remove source).put place content
  | _ => throw .notFound

/-- The directory in which the temporary file for another file is created. -/
def temporaryDirectory (target : Path) : Path :=
  match target.parent? with
  | some directory => if directory.text = "" then ⟨"."⟩ else directory
  | none => ⟨"."⟩

end FileSystem

/-- Why a file cannot be replaced. -/
inductive ReplaceError
  | noTemporary (directory : Path) (cause : OsError) (path : Path)
  /-- The temporary file could not take the name. The error keeps it. -/
  | notRenamed (target : Path) (cause : OsError) (temporary : FileSystem.Temporary)
  deriving DecidableEq

namespace ReplaceError

/-- The text of an error, followed by the texts of its causes. -/
def chain : ReplaceError → List String
  | noTemporary directory cause path =>
    [s!"Could not create a temporary file in {directory.text}",
     s!"{cause.message} at path {Text.quoted path.text}"]
  | notRenamed target cause _ =>
    [s!"Could not write {target.text}", s!"failed to persist temporary file: {cause.message}",
     cause.message]

/-- The temporary file that an error keeps. It is deleted when the error is dropped. -/
def kept? : ReplaceError → Option FileSystem.Temporary
  | noTemporary .. => none
  | notRenamed _ _ temporary => some temporary

end ReplaceError

/-- The outcome of replacing a file, the path of the temporary file if one was created, and the
files as they are with the outcome. -/
structure Replacement where
  result : Except ReplaceError Unit
  temporary : Option Path
  files : FileSystem

/-- Replaces a file or creates it. If the temporary file was created but cannot be renamed, it is
still there: the error keeps it. -/
def FileSystem.replace (fs : FileSystem) (naming : Naming) (target : Path) (content : List UInt8) :
    Replacement :=
  let directory := temporaryDirectory target
  match fs.createTemporary naming directory content with
  | .error (cause, path) => ⟨.error (.noTemporary directory cause path), none, fs⟩
  | .ok (temporary, files) =>
    match files.rename temporary.place target with
    | .ok renamed => ⟨.ok (), temporary.path, renamed⟩
    | .error cause => ⟨.error (.notRenamed target cause temporary), temporary.path, files⟩

end BitmapFont
