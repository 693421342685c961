import BitmapFont.Log

/-!
# Diagnostics

What a compilation has to say about its input. A diagnostic has a level and a message, and the
number of the line it is about if there is one.

## Main definitions

- `Diagnostic` — one remark
- `Diagnostics` — all remarks, in the order in which they were made
- `Diagnostics.problemCount` — the number of remarks that call for attention
-/

namespace BitmapFont

/-- How much a diagnostic matters. -/
inductive Level
  | debug
  | info
  | warning
  | error
  | fatal
  deriving DecidableEq

namespace Level

/-- The word for a level in a diagnostic. -/
def label : Level → String
  | debug => "debug"
  | info => "info"
  | warning => "warning"
  | error => "error"
  | fatal => "fatal"

/-- Whether diagnostics of a level call for attention. -/
def isProblem : Level → Bool
  | debug | info => false
  | warning | error | fatal => true

end Level

/-- One remark on the input. Lines count from one. -/
structure Diagnostic where
  level : Level
  line : Option Nat
  message : String
  deriving DecidableEq

namespace Diagnostic

/-- A remark that helps to follow what happens. -/
def debug (line : Option Nat) (message : String) : Diagnostic := ⟨.debug, line, message⟩

/-- A remark on a value that was settled. -/
def info (message : String) : Diagnostic := ⟨.info, none, message⟩

/-- A remark on input that was passed over or replaced. -/
def warn (line : Option Nat) (message : String) : Diagnostic := ⟨.warning, line, message⟩

/-- A remark on input that contradicts earlier input. -/
def error (line : Option Nat) (message : String) : Diagnostic := ⟨.error, line, message⟩

/-- A remark on what ended a compilation. -/
def fatal (message : String) : Diagnostic := ⟨.fatal, none, message⟩

/-- A diagnostic as a text. -/
def text (d : Diagnostic) : String :=
  match d.line with
  | some line => s!"[{d.level.label}] line {line}: {d.message}"
  | none => s!"[{d.level.label}] {d.message}"

/-- A diagnostic as a record of the log. -/
def logRecord (d : Diagnostic) : LogRecord :=
  match d.level with
  | .debug => ⟨.debug, .diagnostics, d.message⟩
  | .info => ⟨.info, .diagnostics, d.message⟩
  | .warning => ⟨.warn, .diagnostics, d.message⟩
  | .error => ⟨.error, .diagnostics, d.message⟩
  | .fatal => ⟨.error, .diagnostics, "Fatal: " ++ d.message⟩

end Diagnostic

/-- Diagnostics in the order in which they were made. -/
structure Diagnostics where
  entries : List Diagnostic
  deriving DecidableEq

namespace Diagnostics

/-- No diagnostics. -/
def empty : Diagnostics := ⟨[]⟩

/-- The diagnostics with one more at the end. -/
def push (ds : Diagnostics) (d : Diagnostic) : Diagnostics :=
  ⟨ds.entries ++ [d]⟩

/-- The diagnostics with more at the end. -/
def append (ds : Diagnostics) (more : List Diagnostic) : Diagnostics :=
  ⟨ds.entries ++ more⟩

/-- The diagnostics of one level. -/
def atLevel (ds : Diagnostics) (level : Level) : List Diagnostic :=
  ds.entries.filter (·.level == level)

theorem atLevel_append (ds : Diagnostics) (more : List Diagnostic) (level : Level) :
    (ds.append more).atLevel level = ds.atLevel level ++ more.filter (·.level == level) :=
  List.filter_append _ _

/-- The number of diagnostics that call for attention. -/
def problemCount (ds : Diagnostics) : Nat :=
  ds.entries.countP (·.level.isProblem)

/-- Whether a compilation has failed. -/
def hasFatal (ds : Diagnostics) : Bool :=
  ds.entries.any (·.level == .fatal)

end Diagnostics

end BitmapFont
