import BitmapFont.Pattern.Brackets
import BitmapFont.Text.Letter

/-!
# Parsing patterns

A pattern is a sequence of parts or several of them as alternatives. Parts are characters, sets,
places, groups and repetitions of other parts.

## Main definitions

- `Expression.parse` — the structure of a pattern
-/

namespace BitmapFont.Pattern

namespace Reading

/-- The letters of the flags. -/
def flagLetters : List (Char × Flag) :=
  [('i', .ignoreCase), ('m', .multiLine), ('s', .dotMatchesAll), ('U', .lazy), ('u', .unicode),
   ('R', .returnLineFeed), ('x', .ignoreBlanks)]

/-- Reads one letter or sign of the flags of a group, which must not be among the earlier ones. -/
def readFlagItem (earlier : List (FlagItem × Span)) (c : Char) : Reading (FlagItem × Span) := do
  let span ← nextSpan
  let (item, repeated) ←
    if c = '-' then pure (FlagItem.negation, Fault.flagNegationRepeated)
    else match flagLetters.lookup c with
      | some flag => pure (.flag flag, .flagRepeated)
      | none => fail .flagUnknown span
  if let some first := earlier.lookup item then throw ⟨repeated, span, some first⟩
  skip
  if (← peek).isNone then failHere .flagEnd
  return (item, span)

/-- Reads the flags of a group up to the parenthesis or colon behind them. -/
def readFlags : Nat → List (FlagItem × Span) → Reading (List FlagItem)
  | 0, _ => failHere .exhausted
  | fuel + 1, items => do
    match ← peek with
    | none => failHere .flagEnd
    | some c =>
      if c = ':' ∨ c = ')' then
        match items.getLast? with
        | some (.negation, span) => fail .flagNegationDangling span
        | _ => return items.map (·.1)
      else
        readFlags fuel (items ++ [← readFlagItem items c])

/-- Whether a character may stand in the name of a group: a letter, a digit, or one of a few signs.
The first character is a letter or an underscore. -/
def isNameChar (isFirst : Bool) (c : Char) : Bool :=
  c = '_' || Text.isLetter c || !isFirst && (c = '.' || c = '[' || c = ']' || Text.isNumber c)

/-- Reads the characters of a group's name. -/
def readNameChars : Nat → Bool → Reading (List Char)
  | 0, _ => return []
  | fuel + 1, isFirst => do
    match ← peek with
    | none => return []
    | some '>' => return []
    | some c =>
      unless isNameChar isFirst c do failNext .groupNameCharacter
      skip
      return c :: (← readNameChars fuel false)

/-- Reads the name of a group and the bracket behind it. No two groups have one name. -/
def readName : Reading Unit := do
  let start ← position
  let name ← readNameChars (← get).rest.length true
  let span ← spanFrom start
  if (← peek).isNone then failHere .groupNameUnclosed
  skip
  if name = [] then fail .groupNameEmpty (.empty start)
  if let some first := (← get).names.lookup name then
    throw ⟨.groupNameRepeated, span, some first⟩
  modify fun c => { c with names := (name, span) :: c.names }

/-- The beginning of a group, or flags for what follows. -/
inductive GroupOpening
  | flags (items : List FlagItem)
  | capture
  | group (items : List FlagItem)

/-- The texts behind a parenthesis that ask for what is around a place. -/
def lookAroundTexts : List (List Char) :=
  ["?=".toList, "?!".toList, "?<=".toList, "?<!".toList]

/-- Reads the beginning of a group. -/
def readGroupOpening : Reading GroupOpening := do
  let start ← position
  let parenthesis ← nextSpan
  skip
  skipBlanks
  for text in lookAroundTexts do
    if ← skipText text then fail .lookAround (← spanFrom start)
  let inside ← position
  if ← skipText "?P<".toList then
    readName
    return .capture
  else if ← skipText "?<".toList then
    readName
    return .capture
  else if ← skipText "?".toList then
    if (← peek).isNone then fail .groupUnclosed parenthesis
    let items ← readFlags ((← get).rest.length + 1) []
    if ← skipText ":".toList then
      return .group items
    else
      skip
      if items = [] then fail .repetitionMissing (.empty inside)
      return .flags items
  else
    return .capture

/-- The greatest count of a repetition. -/
def maxCount : Nat := 4294967295

/-- Reads a decimal number. A fault in it is told later. -/
def readDecimal : Reading (Except Malformed Nat) := do
  let _ ← collect Text.isBlank
  let start ← position
  let digits ← collect Char.isDigit
  let span ← spanFrom start
  let _ ← collect Text.isBlank
  if digits = [] then return .error ⟨.countEmpty, span, none⟩
  let value := Text.decimalValue digits
  return if value ≤ maxCount then .ok value else .error ⟨.decimalRange, span, none⟩

/-- Reads the counts of a repetition in braces: the least count and the greatest, if there is
one. -/
def readCounts : Reading (Nat × Option Nat) := do
  let start ← position
  let failUnclosed : Reading Unit := do fail .countUnclosed (← spanFrom start)
  skipOn
  if (← peek).isNone then failUnclosed
  let least ← readDecimal
  if (← peek).isNone then failUnclosed
  let counts ←
    if (← peek) = some ',' then
      skipOn
      if (← peek).isNone then failUnclosed
      if (← peek) = some '\x7d' then
        pure (← least, none)
      else
        let lower ← least
        pure (lower, some (← (← readDecimal)))
    else
      let count ← least
      pure (count, some count)
  unless (← peek) = some '\x7d' do failUnclosed
  skipOn
  if (← peek) = some '?' then skip
  if counts.2.any (· < counts.1) then fail .countOrder (← spanFrom start)
  return counts

/-- The counts of the repetitions that are written by one sign. -/
def repetitionSigns : List (Char × Nat × Option Nat) :=
  [('?', 0, some 1), ('*', 0, none), ('+', 1, none)]

/-- Reads the sign or the braces of a repetition. -/
def readRepetition (c : Char) : Reading (Nat × Option Nat) := do
  match repetitionSigns.lookup c with
  | some counts =>
    skip
    if (← peek) = some '?' then skip
    return counts
  | none => readCounts

/-- What has been read of a group or of the pattern: the earlier alternatives and the parts of the
last one. -/
structure Progress where
  start : Position
  branches : List Expression
  branchStart : Position
  parts : List Expression

namespace Progress

/-- Nothing read yet. -/
def empty (p : Position) : Progress := ⟨p, [], p, []⟩

/-- One more part. -/
def push (p : Progress) (part : Expression) : Progress :=
  { p with parts := p.parts ++ [part] }

/-- The last alternative, which ends at a place. -/
def branch (p : Progress) (stop : Position) : Expression :=
  .sequence ⟨p.branchStart, stop⟩ p.parts

/-- The next alternative begins behind a bar. -/
def nextBranch (p : Progress) (bar start : Position) : Progress :=
  { p with branches := p.branches ++ [p.branch bar], branchStart := start, parts := [] }

/-- What has been read, up to a place. -/
def expression (p : Progress) (stop : Position) : Expression :=
  if p.branches.isEmpty then p.branch stop
  else .alternation ⟨p.start, stop⟩ (p.branches ++ [p.branch stop])

end Progress

mutual

/-- Reads a group, or flags for what follows. Whether blanks are skipped in a group has no effect
behind it. -/
def readGroup : Nat → Reading Expression
  | 0 => failHere .exhausted
  | fuel + 1 => do
    let start ← position
    let parenthesis ← nextSpan
    let outside := (← get).spaced
    let opening ← readGroupOpening
    let spaced (items : List FlagItem) : Bool :=
      ((FlagItem.settings items).lookup .ignoreBlanks).getD outside
    match opening with
    | .flags items =>
      modify ({ · with spaced := spaced items })
      return .flags (← spanFrom start) items
    | .capture =>
      let inner ← readAlternatives fuel (some parenthesis) (.empty (← position))
      modify ({ · with spaced := outside })
      skip
      return .capture (← spanFrom start) inner
    | .group items =>
      modify ({ · with spaced := spaced items })
      let inner ← readAlternatives fuel (some parenthesis) (.empty (← position))
      modify ({ · with spaced := outside })
      skip
      return .group (← spanFrom start) items inner

/-- Reads alternatives up to the end of the pattern or the parenthesis that closes the group,
which stays to be read. -/
def readAlternatives : Nat → Option Span → Progress → Reading Expression
  | 0, _, _ => failHere .exhausted
  | fuel + 1, parenthesis, progress => do
    skipBlanks
    let here ← position
    match ← peek with
    | none =>
      match parenthesis with
      | some span => fail .groupUnclosed span
      | none => return progress.expression here
    | some ')' =>
      match parenthesis with
      | some _ => return progress.expression here
      | none => failNext .groupUnopened
    | some '|' =>
      skip
      readAlternatives fuel parenthesis (progress.nextBranch here (← position))
    | some '(' => readAlternatives fuel parenthesis (progress.push (← readGroup fuel))
    | some '[' =>
      let set ← readBrackets (2 * (← get).rest.length)
      readAlternatives fuel parenthesis (progress.push (.characters set))
    | some '\\' =>
      readAlternatives fuel parenthesis (progress.push (← readEscape).expression)
    | some c =>
      if c = '?' ∨ c = '*' ∨ c = '+' ∨ c = '\x7b' then
        match progress.parts.getLast? with
        | none => failHere .repetitionMissing
        | some inner =>
          unless inner.isRepeatable do failHere .repetitionMissing
          let (least, most) ← readRepetition c
          let part := Expression.repetition ⟨inner.span.start, ← position⟩ least most inner
          readAlternatives fuel parenthesis
            ({ progress with parts := progress.parts.dropLast }.push part)
      else
        let span ← nextSpan
        skip
        let part :=
          if c = '.' then Expression.anyCharacter span
          else if c = '^' then .assertion span .lineStart
          else if c = '$' then .assertion span .lineEnd
          else .literal ⟨span, c, false⟩
        readAlternatives fuel parenthesis (progress.push part)

end

end Reading

/-- The greatest depth of parts within parts. -/
def maxDepth : Nat := 250

/-- The structure of a pattern. Of two steps of reading one takes a character, so there are at most
two for each character and two for the end. -/
def Expression.parse (source : String) : Except Malformed Expression := do
  let cursor := Cursor.ofText source
  let read := Reading.readAlternatives (2 * cursor.rest.length + 2) none (.empty cursor.position)
  let (expression, _) ← read.run cursor
  match expression.tooDeep? maxDepth with
  | some span => throw ⟨.tooDeep maxDepth, span, none⟩
  | none => return expression

end BitmapFont.Pattern
