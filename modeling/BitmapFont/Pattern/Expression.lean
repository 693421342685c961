import BitmapFont.Pattern.Span

/-!
# Expressions

The structure of a pattern as it is written. Each part knows its place, so that faults which are
found later can be shown.

## Main definitions

- `ClassExpression` — the sets of characters that brackets and escapes describe
- `Expression` — the structure of a pattern
- `Expression.tooDeep?` — the first part that is nested too deeply
-/

namespace BitmapFont.Pattern

/-- A character that stands for itself. -/
structure Literal where
  span : Span
  char : Char
  /-- Whether it is given by two digits in base sixteen, which can mean a byte. -/
  isByte : Bool

/-- The sets of characters with letters of their own: digits, blanks and the characters of
words. -/
inductive LetterSet
  | digit
  | space
  | word

/-- A set of characters with a letter of its own, or all other characters. -/
structure LetterClass where
  span : Span
  set : LetterSet
  negated : Bool

/-- A set of characters that is named by a property, and perhaps by a value of it. -/
structure PropertyClass where
  span : Span
  name : List Char
  hasValue : Bool

/-- The operations on sets of characters. -/
inductive SetOperation
  | intersection
  | difference
  | symmetricDifference

/-- A description of a set of characters. -/
inductive ClassExpression
  | nothing (span : Span)
  | literal (l : Literal)
  | range (span : Span) (first last : Literal)
  /-- A named set of `ASCII` characters, as ranges of code points. -/
  | named (span : Span) (ranges : List (Nat × Nat)) (negated : Bool)
  | letters (c : LetterClass)
  | property (c : PropertyClass)
  | bracketed (span : Span) (negated : Bool) (inner : ClassExpression)
  | union (span : Span) (parts : List ClassExpression)
  | combined (span : Span) (operation : SetOperation) (left right : ClassExpression)

namespace ClassExpression

/-- The place of a description. -/
def span : ClassExpression → Span
  | nothing span | range span _ _ | named span _ _ | bracketed span _ _ | union span _
  | combined span _ _ _ => span
  | literal l => l.span
  | letters c => c.span
  | property c => c.span

end ClassExpression

/-- The places in a text that an assertion can ask for. -/
inductive AssertionKind
  | lineStart
  | lineEnd
  | textStart
  | textEnd
  | wordBoundary
  | noWordBoundary
  | wordStart
  | wordEnd
  | wordStartHalf
  | wordEndHalf
  deriving DecidableEq

/-- A switch for the meaning of a pattern. -/
inductive Flag
  | ignoreCase
  | multiLine
  | dotMatchesAll
  | lazy
  | unicode
  | returnLineFeed
  | ignoreBlanks
  deriving DecidableEq

/-- One of the letters that set flags: a flag, or the sign behind which flags are unset. -/
inductive FlagItem
  | negation
  | flag (f : Flag)
  deriving DecidableEq

/-- The flags that items set (`true`) and unset (`false`). -/
def FlagItem.settings (items : List FlagItem) : List (Flag × Bool) :=
  (items.foldl (fun (on, done) item =>
    match item with
    | .negation => (false, done)
    | .flag f => (on, done ++ [(f, on)])) (true, [])).2

/-- The structure of a pattern. -/
inductive Expression
  | empty (span : Span)
  | flags (span : Span) (items : List FlagItem)
  | literal (l : Literal)
  | anyCharacter (span : Span)
  | assertion (span : Span) (kind : AssertionKind)
  | characters (c : ClassExpression)
  | repetition (span : Span) (least : Nat) (most : Option Nat) (inner : Expression)
  | capture (span : Span) (inner : Expression)
  | group (span : Span) (items : List FlagItem) (inner : Expression)
  | alternation (span : Span) (branches : List Expression)
  | concatenation (span : Span) (parts : List Expression)

namespace Expression

/-- The place of an expression. -/
def span : Expression → Span
  | empty span | flags span _ | anyCharacter span | assertion span _ | repetition span _ _ _
  | capture span _ | group span _ _ | alternation span _ | concatenation span _ => span
  | literal l => l.span
  | characters c => c.span

/-- Parts one after the other, in a span. -/
def sequence (span : Span) : List Expression → Expression
  | [] => empty span
  | [part] => part
  | parts => concatenation span parts

/-- Whether a repetition may follow an expression. -/
def isRepeatable : Expression → Bool
  | empty _ | flags _ _ => false
  | _ => true

end Expression

/-! ## Depth -/

mutual

/-- The first set that has more than `room` sets around it, itself included. Single characters and
ranges do not count. -/
def ClassExpression.tooDeep? (room : Nat) : ClassExpression → Option Span
  | .bracketed span _ inner => if room = 0 then some span else inner.tooDeep? (room - 1)
  | .union span parts => if room = 0 then some span else ClassExpression.tooDeepPart? (room - 1) parts
  | .combined span _ left right =>
    if room = 0 then some span
    else (left.tooDeep? (room - 1)).or (right.tooDeep? (room - 1))
  | _ => none

/-- The first set in a list that is nested too deeply. -/
def ClassExpression.tooDeepPart? (room : Nat) : List ClassExpression → Option Span
  | [] => none
  | part :: rest => (part.tooDeep? room).or (ClassExpression.tooDeepPart? room rest)

end

mutual

/-- The first part that has more than `room` composite parts around it, itself included. -/
def Expression.tooDeep? (room : Nat) : Expression → Option Span
  | .characters c => c.tooDeep? room
  | .repetition span _ _ inner | .capture span inner | .group span _ inner =>
    if room = 0 then some span else inner.tooDeep? (room - 1)
  | .alternation span parts | .concatenation span parts =>
    if room = 0 then some span else Expression.tooDeepPart? (room - 1) parts
  | _ => none

/-- The first part in a list that is nested too deeply. -/
def Expression.tooDeepPart? (room : Nat) : List Expression → Option Span
  | [] => none
  | part :: rest => (part.tooDeep? room).or (Expression.tooDeepPart? room rest)

end

end BitmapFont.Pattern
