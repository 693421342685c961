import BitmapFont.Pattern.Span
import BitmapFont.Text.Lines

/-!
# Faults in patterns

What can be wrong with a pattern, and the report that shows it in the text of the pattern.

## Main definitions

- `Fault` — what is wrong
- `Malformed` — a fault and where it is
- `Malformed.report` — the text of the pattern with carets under the fault
-/

namespace BitmapFont.Pattern

/-- What is wrong with a pattern. -/
inductive Fault
  | classEscape
  | classRangeOrder
  | classRangeBound
  | classUnclosed
  | decimalRange
  | hexEmpty
  | hexRange
  | hexDigit
  | escapeEnd
  | escapeUnknown
  | flagNegationDangling
  | flagRepeated
  | flagNegationRepeated
  | flagEnd
  | flagUnknown
  | groupNameRepeated
  | groupNameEmpty
  | groupNameCharacter
  | groupNameUnclosed
  | groupUnclosed
  | groupUnopened
  | tooDeep (limit : Nat)
  | countOrder
  | countEmpty
  | countUnclosed
  | repetitionMissing
  | wordUnclosed
  | wordUnknown
  | wordEnd
  | propertyLetter
  | backreference
  | lookAround
  /-- A class of all characters where only `ASCII` is known. -/
  | unicodeNotAllowed
  /-- A set with single bytes of characters that take several. -/
  | partialCharacters
  | propertyUnknown
  | propertyValueUnknown
  /-- A class such as `\d` where all characters are known. -/
  | letterClassUnavailable
  /-- Text whose case is ignored where all characters are known. -/
  | caseUnavailable
  /-- The end of the steps that reading may take. They always suffice. -/
  | exhausted
  deriving DecidableEq

/-- What is wrong, in words. -/
def Fault.message : Fault → String
  | classEscape => "invalid escape sequence found in character class"
  | classRangeOrder => "invalid character class range, the start must be <= the end"
  | classRangeBound => "invalid range boundary, must be a literal"
  | classUnclosed => "unclosed character class"
  | decimalRange => "decimal literal invalid"
  | hexEmpty => "hexadecimal literal empty"
  | hexRange => "hexadecimal literal is not a Unicode scalar value"
  | hexDigit => "invalid hexadecimal digit"
  | escapeEnd => "incomplete escape sequence, reached end of pattern prematurely"
  | escapeUnknown => "unrecognized escape sequence"
  | flagNegationDangling => "dangling flag negation operator"
  | flagRepeated => "duplicate flag"
  | flagNegationRepeated => "flag negation operator repeated"
  | flagEnd => "expected flag but got end of regex"
  | flagUnknown => "unrecognized flag"
  | groupNameRepeated => "duplicate capture group name"
  | groupNameEmpty => "empty capture group name"
  | groupNameCharacter => "invalid capture group character"
  | groupNameUnclosed => "unclosed capture group name"
  | groupUnclosed => "unclosed group"
  | groupUnopened => "unopened group"
  | tooDeep limit => s!"exceed the maximum number of nested parentheses/brackets ({limit})"
  | countOrder => "invalid repetition count range, the start must be <= the end"
  | countEmpty => "repetition quantifier expects a valid decimal"
  | countUnclosed => "unclosed counted repetition"
  | repetitionMissing => "repetition operator missing expression"
  | wordUnclosed =>
    "special word boundary assertion is either unclosed or contains an invalid character"
  | wordUnknown =>
    "unrecognized special word boundary assertion, "
      ++ "valid choices are: start, end, start-half or end-half"
  | wordEnd =>
    "found either the beginning of a special word boundary or a bounded repetition on a \\b "
      ++ "with an opening brace, but no closing brace"
  | propertyLetter => "invalid Unicode character class"
  | backreference => "backreferences are not supported"
  | lookAround => "look-around, including look-ahead and look-behind, is not supported"
  | unicodeNotAllowed => "Unicode not allowed here"
  | partialCharacters => "pattern can match invalid UTF-8"
  | propertyUnknown => "Unicode property not found"
  | propertyValueUnknown => "Unicode property value not found"
  | letterClassUnavailable =>
    "Unicode-aware Perl class not found (make sure the unicode-perl feature is enabled)"
  | caseUnavailable =>
    "Unicode-aware case insensitivity matching is not available "
      ++ "(make sure the unicode-case feature is enabled)"
  | exhausted => "unfinished pattern"

/-- A fault and where it is. A fault that repeats something comes with the place of what it
repeats. -/
structure Malformed where
  fault : Fault
  span : Span
  earlier : Option Span
  deriving DecidableEq

namespace Malformed

/-- The marks under one line: carets under its spans, which come in ascending order, and blanks
between them. An empty span is shown by one caret. -/
def carets (column : Nat) : List Span → List Char
  | [] => []
  | s :: rest =>
    let width := max 1 (s.stop.column - s.start.column)
    List.replicate (s.start.column - column) ' ' ++ List.replicate width '^'
      ++ carets (max column s.start.column + width) rest

/-- The spans of a fault in ascending order. What is repeated stands before the repetition. -/
def spans (m : Malformed) : List Span :=
  m.earlier.toList ++ [m.span]

/-- The lines of a pattern, each behind a margin and followed by the marks under it. A pattern of
several lines has their numbers in the margin. -/
def notes (m : Malformed) (source : List Char) : List (List Char) :=
  let lines := Text.lines source
  let count := lines.length + if source.getLast? = some '\n' then 1 else 0
  let width := (Nat.toDigits 10 count).length
  (Text.numbered lines).flatMap fun (number, line) =>
    let digits := Nat.toDigits 10 number
    let margin :=
      if count ≤ 1 then List.replicate 4 ' '
      else List.replicate (width - digits.length) ' ' ++ digits ++ [':', ' ']
    let marked := m.spans.filter fun s => s.isOneLine && s.start.line == number
    (margin ++ line) ::
      if marked = [] then [] else [List.replicate margin.length ' ' ++ carets 1 marked]

/-- The words for a span over several lines. -/
def acrossLines (s : Span) : String :=
  s!"on line {s.start.line} (column {s.start.column}) "
    ++ s!"through line {s.stop.line} (column {s.stop.column - 1})"

/-- The report on a fault, which shows the pattern. A pattern of several lines is set off by lines
of tildes. -/
def report (m : Malformed) (source : String) : String :=
  let notes := (m.notes source.toList).map String.ofList
  let ruler := String.ofList (List.replicate 79 '~')
  let shown :=
    if '\n' ∈ source.toList then
      [ruler] ++ notes ++ [ruler] ++ (m.spans.filter (!·.isOneLine)).map acrossLines
    else notes
  "\n".intercalate (["regex parse error:"] ++ shown ++ [s!"error: {m.fault.message}"])

end Malformed

end BitmapFont.Pattern
