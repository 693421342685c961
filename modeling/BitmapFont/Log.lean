import BitmapFont.Pattern.Basic
import BitmapFont.Text.Blank

/-!
# Log records

What the program does is told in log records. Each belongs to a source within the program, and a
filter given by the user decides by level, source and message which records are shown.

## Main definitions

- `LogRecord` — one message
- `LogFilter.parse` — the filter that a text describes, with warnings
- `LogFilter.shows` — whether a filter lets a record through
-/

namespace BitmapFont

/-- How much a record matters. -/
inductive LogLevel
  | error
  | warn
  | info
  | debug
  deriving DecidableEq

namespace LogLevel

/-- The word for a level in a shown record. -/
def label : LogLevel → String
  | error => "ERROR"
  | warn => "WARN"
  | info => "INFO"
  | debug => "DEBUG"

/-- The number of levels that matter as much or more. -/
def rank : LogLevel → Nat
  | error => 1
  | warn => 2
  | info => 3
  | debug => 4

end LogLevel

/-- The parts of the program that log. -/
inductive LogSource
  | commandLine
  | fontStatistics
  | diagnostics
  | compiler
  deriving DecidableEq

/-- The name of a source, to which filters refer. -/
def LogSource.name : LogSource → String
  | commandLine => "bffc"
  | fontStatistics => "bff_common::font"
  | diagnostics => "bff_compiler::diagnostics"
  | compiler => "bff_compiler::compile"

/-- One message of the log. -/
structure LogRecord where
  level : LogLevel
  source : LogSource
  message : String
  deriving DecidableEq

namespace LogRecord

/-- The message with its lines after the first indented. -/
def body (r : LogRecord) : String :=
  String.ofList (r.message.toList.flatMap fun c => if c = '\n' then "\n    ".toList else [c])

/-- The shown form of a record. The words for the levels are as wide as the widest of them. -/
def text (r : LogRecord) : String :=
  let blanks := String.ofList (List.replicate (5 - r.level.label.length) ' ')
  "[" ++ r.level.label ++ blanks ++ " " ++ r.source.name ++ "] " ++ r.body

end LogRecord

/-- One rule of a filter: records are shown up to the rank `threshold`. A rule with a target holds
for the sources whose names start with it, a rule without one for all sources. -/
structure LogRule where
  target : Option (List Char)
  threshold : Nat
  deriving DecidableEq

/-- The rules by which log records are shown, and a pattern that occurs in their messages. -/
structure LogFilter where
  rules : List LogRule
  pattern : Option Pattern

namespace LogFilter

/-- The names of the thresholds, by rank. The last shows everything. -/
def thresholds : List (List Char × Nat) :=
  [("off".toList, 0), ("error".toList, 1), ("warn".toList, 2), ("info".toList, 3),
   ("debug".toList, 4), ("trace".toList, 5)]

/-- The rank of a threshold, whose name may be in either case. -/
def threshold? (name : List Char) : Option Nat :=
  thresholds.lookup (name.map Char.toLower)

/-- The rule that one part of a filter describes: a threshold for all sources, a source, or both
with an equals sign between them. A source alone is shown in full. A part that describes no rule
gives the text at fault: the word that names no threshold, or the part if it has several equals
signs. -/
def parseRule (part : List Char) : Except (List Char) LogRule :=
  match Text.pieces '=' part with
  | [word] =>
    match threshold? word with
    | some rank => .ok ⟨none, rank⟩
    | none => .ok ⟨some word, 5⟩
  | [target, word] =>
    match Text.trim word with
    | [] => .ok ⟨some target, 5⟩
    | name =>
      match threshold? name with
      | some rank => .ok ⟨some target, rank⟩
      | none => .error name
  | _ => .error part

/-- The rules with one more, which takes the place of an earlier one for the same target. -/
def addRule (rules : List LogRule) (rule : LogRule) : List LogRule :=
  if rules.any (·.target = rule.target) then
    rules.map fun r => if r.target = rule.target then rule else r
  else rules ++ [rule]

/-- The filter of some rules. Without any rule only errors are shown. -/
def ofRules (rules : List LogRule) (pattern : Option Pattern) : LogFilter :=
  ⟨if rules = [] then [⟨none, 1⟩] else rules.foldl addRule [], pattern⟩

/-- The warning about a text that describes no filter. -/
def warning (text : List Char) (reason : String) : String :=
  s!"warning: invalid logging spec '{String.ofList text}', ignoring it" ++ reason

/-- The rules that a list between commas describes, and a warning for each part that describes
none. -/
def parseRules (text : List Char) : List LogRule × List String :=
  let parts := (Text.pieces ',' text).map Text.trim
  let read := (parts.filter (· ≠ [])).map parseRule
  (read.filterMap (·.toOption),
    read.filterMap fun
      | .ok _ => none
      | .error fault => some (warning fault ""))

/-- The pattern that a text describes, or else a warning. -/
def parsePattern (text : List Char) : Option Pattern × List String :=
  let source := String.ofList text
  match Pattern.parse source with
  | .ok pattern => (some pattern, [])
  | .error e => (none, ["warning: invalid regex filter - " ++ e.message source])

/-- The filter that a text describes, with warnings about what describes none. A pattern may follow
the rules after a slash. -/
def parse (text : String) : LogFilter × List String :=
  match Text.pieces '/' text.toList with
  | [part] =>
    let (rules, warnings) := parseRules part
    (ofRules rules none, warnings)
  | [part, source] =>
    let (rules, warnings) := parseRules part
    let (pattern, moreWarnings) := parsePattern source
    (ofRules rules pattern, warnings ++ moreWarnings)
  | _ => (ofRules [] none, [warning text.toList " (too many '/'s)"])

/-- The filter for users who give none. -/
def standard : LogFilter := ⟨[⟨none, 3⟩], none⟩

/-- The filter that a user's setting describes, with warnings about it. -/
def ofSetting (setting : Option String) : LogFilter × List String :=
  match setting with
  | some text => parse text
  | none => (standard, [])

/-- How much of a source's name a rule names, if it holds for the source. -/
def reach? (source : LogSource) (rule : LogRule) : Option Nat :=
  match rule.target with
  | none => some 0
  | some target => if target.isPrefixOf source.name.toList then some target.length else none

/-- The rule for a source: of those that hold for it, the one that names most of its name, and of
several such the last. -/
def ruleFor? (filter : LogFilter) (source : LogSource) : Option LogRule :=
  let fitting := filter.rules.filterMap fun rule => (reach? source rule).map (rule, ·)
  (fitting.foldl (fun best (rule, reach) =>
    match best with
    | some (_, most) => if most ≤ reach then some (rule, reach) else best
    | none => some (rule, reach)) none).map (·.1)

/-- Whether records of a level are shown for a source. Without a rule for it nothing is shown. -/
def enabled (filter : LogFilter) (source : LogSource) (level : LogLevel) : Bool :=
  match filter.ruleFor? source with
  | some rule => level.rank ≤ rule.threshold
  | none => false

/-- Whether a record is shown. -/
def shows (filter : LogFilter) (r : LogRecord) : Bool :=
  filter.enabled r.source r.level && filter.pattern.all (·.occursIn r.message)

end LogFilter

end BitmapFont
