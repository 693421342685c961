import BitmapFont.CommandLine.Basic

/-!
# The program

The program loads the files that a compilation looks at, works out what to do, and brings the
files on disk up to date. Only this module touches the outside world.
-/

namespace BitmapFont

namespace Program

/-- What is found at a place on disk. The directory of the place is known to exist. -/
def probe (place : Location) : IO (Option Entry) := do
  try
    let content ← IO.FS.readBinFile (FileSystem.absolutePath place).text
    return some (.file content.toList)
  catch e =>
    match e with
    | .inappropriateType .. => return some .directory
    | _ => return none

/-- The file system together with what is found at a place on disk. -/
def loadPlace (fs : FileSystem) (place : Location) : IO FileSystem := do
  if (fs.entry? place).isSome then return fs
  match ← probe place with
  | some entry => return fs.add place entry
  | none => return fs

/-- The file system together with what is found on disk on the way of a path. -/
def loadPath (fs : FileSystem) (p : Path) : IO FileSystem := do
  let mut loaded := fs
  let mut place := fs.origin p
  for segment in Text.pieces '/' p.text.toList do
    if segment = ['.', '.'] then place := place.dropLast
    else if !Path.isIdle segment then
      unless loaded.entry? place = some .directory do return loaded
      place := place ++ [String.ofList segment]
      loaded ← loadPlace loaded place
  return loaded

/-- The file system together with the names of temporary files that are taken in a directory, from
the `n`-th on until one is free. -/
def loadTemporaries (fs : FileSystem) (directory : Location) : Nat → Nat → IO FileSystem
  | 0, _ => return fs
  | tries + 1, n => do
    let place := directory ++ [FileSystem.firstFreeName.name n]
    let loaded ← loadPlace fs place
    if (loaded.entry? place).isNone then return loaded
    loadTemporaries loaded directory tries (n + 1)

/-- The file system with the current directory of the program and nothing else. -/
def currentFiles : IO FileSystem := do
  let current ← IO.FS.realPath "."
  let names := (Text.pieces '/' current.toString.toList).filter (· ≠ [])
  let place := names.map String.ofList
  let files := (List.range place.length).foldl
    (fun fs n => fs.add (place.take (n + 1)) .directory) FileSystem.empty
  return { files with current := place }

/-- The files that compiling a project looks at. -/
def loadFiles (project : Path) : IO FileSystem := do
  let request : CompileRequest := ⟨project, none, none⟩
  let mut fs ← loadPath (← currentFiles) request.projectPath
  if let .ok text := readText fs request.projectPath then
    let directives := (Directives.ofText text).1
    if let .ok file := (Project.requestedFile directives request.projectPath).result then
      fs ← loadPath fs (request.baseDir.join file)
      fs ← loadPath fs (Project.besideProject request.projectPath file)
  if let .ok output := request.outputPath then
    fs ← loadPath fs output
    let directory := FileSystem.temporaryDirectory output
    fs ← loadPath fs directory
    if let .ok place := fs.findDirectory directory then
      fs ← loadTemporaries fs place FileSystem.firstFreeName.tries 0
  return fs

/-- Writes the files that are new or have changed, each by way of a temporary file. -/
def storeFiles (before after : FileSystem) : IO Unit := do
  for (place, entry) in after.entries do
    if let .file content := entry then
      unless before.entry? place = some entry do
        let directory := place.dropLast
        let some name := FileSystem.firstFreeName.freeName? before directory
          | throw (IO.userError OsError.namesTaken.message)
        let temporary := directory ++ [name]
        IO.FS.writeBinFile (FileSystem.absolutePath temporary).text ⟨content.toArray⟩
        IO.FS.rename (FileSystem.absolutePath temporary).text (FileSystem.absolutePath place).text

/-- Prints a line on standard error. -/
def printLine : ErrorLine → IO Unit
  | .plain text => IO.eprintln text
  | .record r => IO.eprintln r.text

end Program

end BitmapFont

open BitmapFont in
/-- Compiles the project that the arguments name. The environment variable `RUST_LOG` filters the
log. -/
def main (arguments : List String) : IO UInt32 := do
  let files ← match Invocation.parse arguments with
    | .project path => Program.loadFiles path
    | _ => pure FileSystem.empty
  let setting ← IO.getEnv "RUST_LOG"
  let start ← IO.monoNanosNow
  let outcome ← IO.lazyPure fun _ => CommandLine.run arguments setting files
  let stop ← IO.monoNanosNow
  Program.storeFiles files outcome.files
  IO.print outcome.stdout
  (outcome.stderr ((stop - start) / 1000)).forM Program.printLine
  return outcome.exitCode.toUInt32
