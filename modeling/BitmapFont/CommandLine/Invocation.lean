import BitmapFont.Path
import BitmapFont.Text.Lines

/-!
# Invocations

The program takes the path of a project file, or an option that makes it explain itself.

## Main definitions

- `Invocation` — what the arguments ask for
- `Invocation.parse` — the invocation that arguments stand for
- `ArgumentFault.lines` — what the program says about arguments that make no sense
-/

namespace BitmapFont

/-- What is wrong with arguments that make no sense. -/
inductive ArgumentFault
  /-- An unknown long option, and whether a path came before it. -/
  | unknownLong (name : String) (pathGiven : Bool)
  | unknownShort (letter : Char)
  /-- An argument after the path. -/
  | superfluous (argument : String)
  /-- A value for a long option that takes none. -/
  | unwantedValue (name value : String)
  | emptyPath
  deriving DecidableEq

namespace ArgumentFault

/-- The form of the arguments where a path may follow. -/
def freeForm : String := "[PROJECT]"

/-- The form of the arguments that have named a path. -/
def pathForm : String := "<PROJECT>"

/-- What is wrong, in words. -/
def message : ArgumentFault → String
  | unknownLong name _ => s!"unexpected argument '--{name}' found"
  | unknownShort letter => s!"unexpected argument '-{letter}' found"
  | superfluous argument => s!"unexpected argument '{argument}' found"
  | unwantedValue name value =>
    s!"unexpected value '{value}' for '--{name}' found; no more were expected"
  | emptyPath => s!"a value is required for '{freeForm}' but none was supplied"

/-- The unknown option, which may have been meant as a path. -/
def unknown? : ArgumentFault → Option String
  | unknownLong name _ => some s!"--{name}"
  | unknownShort letter => some s!"-{letter}"
  | _ => none

/-- The form of the arguments that would do. For an empty path there is nothing to say. -/
def form? : ArgumentFault → Option String
  | unknownLong _ pathGiven => some (if pathGiven then pathForm else freeForm)
  | unknownShort _ => some freeForm
  | superfluous _ => some freeForm
  | unwantedValue name _ => some s!"--{name} {freeForm}"
  | emptyPath => none

/-- What the program says: what is wrong, how to give an unknown option as a path, the form that
would do, and where to find help. -/
def lines (fault : ArgumentFault) : List String :=
  let tip := match fault.unknown? with
    | some option => [s!"  tip: to pass '{option}' as a value, use '-- {option}'", ""]
    | none => []
  let usage := match fault.form? with
    | some form => [s!"Usage: bffc {form}", ""]
    | none => []
  [s!"error: {fault.message}", ""] ++ tip ++ usage
    ++ ["For more information, try '--help'."]

end ArgumentFault

/-- What the arguments of the program ask for. -/
inductive Invocation
  | help
  | version
  | refused (fault : ArgumentFault)
  | noProject
  | project (path : Path)
  deriving DecidableEq

namespace Invocation

/-- The text that explains the program. -/
def helpText : String :=
  "Compiles bitmap font projects into the BFF binary font format.\n\n"
    ++ "Usage: bffc [PROJECT]\n\n"
    ++ "Arguments:\n"
    ++ "  [PROJECT]  The project file describing the font to compile\n\n"
    ++ "Options:\n"
    ++ "  -h, --help     Print help\n"
    ++ "  -V, --version  Print version\n"

/-- The text that names the program's version. -/
def versionText : String := "bff_compiler 0.1.0\n"

/-- An option that explains the program, after an argument that may have been an empty path. -/
def explaining (path : Option String) (answer : Invocation) : Invocation :=
  if path = some "" then .refused .emptyPath else answer

/-- What a long option asks for, after an argument that may have been a path. The text behind the
dashes is a name and perhaps a value after an equals sign. -/
def parseLong (text : List Char) (path : Option String) : Invocation :=
  let (name, value) := match Text.cut? '=' text with
    | some (name, value) => (String.ofList name, some (String.ofList value))
    | none => (String.ofList text, none)
  let known := [("help", help), ("version", version)].lookup name
  match known, value with
  | some answer, none => explaining path answer
  | some _, some value => .refused (.unwantedValue name value)
  | none, _ => .refused (.unknownLong name path.isSome)

/-- What a short option asks for, after an argument that may have been a path. -/
def parseShort (letter : Char) (path : Option String) : Invocation :=
  if letter = 'h' then explaining path .help
  else if letter = 'V' then explaining path .version
  else .refused (.unknownShort letter)

/-- What the arguments ask for after an argument that may have been a path. Options are no longer
recognized once `ended` holds. -/
def parseFrom (ended : Bool) (path : Option String) : List String → Invocation
  | [] =>
    match path with
    | none => .noProject
    | some "" => .refused .emptyPath
    | some text => .project ⟨text⟩
  | argument :: rest =>
    match ended, argument.toList with
    | false, ['-', '-'] => parseFrom true path rest
    | false, '-' :: '-' :: text => parseLong text path
    | false, '-' :: letter :: _ => parseShort letter path
    | _, _ =>
      match path with
      | none => parseFrom ended (some argument) rest
      | some _ => .refused (.superfluous argument)

/-- What the arguments of the program ask for. -/
def parse (arguments : List String) : Invocation :=
  parseFrom false none arguments

end Invocation

end BitmapFont
