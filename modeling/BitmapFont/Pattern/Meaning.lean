import BitmapFont.Pattern.Expression
import BitmapFont.Pattern.Fault
import BitmapFont.Pattern.Matcher

/-!
# The meaning of expressions

What the parts of a pattern match depends on the flags before them. Where characters of all scripts
are known, sets that need a table of them are refused: the letters for sets, properties, and
letters whose case is ignored.

## Main definitions

- `Modes` — the flags in force
- `ClassExpression.meaning` — the set that a description stands for
- `Expression.meaning` — the matcher that a pattern stands for
-/

namespace BitmapFont.Pattern

/-- The flags that are in force at some place of a pattern. -/
structure Modes where
  ignoreCase : Bool
  multiLine : Bool
  dotMatchesAll : Bool
  /-- Whether characters of all scripts are known, or else `ASCII` characters. -/
  unicode : Bool
  /-- Whether a carriage return is the end of a line, or part of it. -/
  returnLineFeed : Bool

namespace Modes

/-- The flags at the beginning of a pattern. -/
def initial : Modes := ⟨false, false, false, true, false⟩

/-- The flags after one has been set or unset. Some have no effect on what is matched. -/
def set (m : Modes) (setting : Flag × Bool) : Modes :=
  match setting with
  | (.ignoreCase, on) => { m with ignoreCase := on }
  | (.multiLine, on) => { m with multiLine := on }
  | (.dotMatchesAll, on) => { m with dotMatchesAll := on }
  | (.unicode, on) => { m with unicode := on }
  | (.returnLineFeed, on) => { m with returnLineFeed := on }
  | (.lazy, _) | (.ignoreBlanks, _) => m

/-- The flags after some have been set and unset. -/
def update (m : Modes) (items : List FlagItem) : Modes :=
  (FlagItem.settings items).foldl set m

/-- The greatest code point, or else the greatest byte. -/
def top (m : Modes) : Nat :=
  if m.unicode then 0x10FFFF else 0xFF

end Modes

/-- The outcome of giving a part of a pattern its meaning. -/
abbrev Meaning := Except Malformed

/-- Refuses a part of a pattern. -/
def refuse {α : Type} (fault : Fault) (span : Span) : Meaning α :=
  .error ⟨fault, span, none⟩

/-! ## Sets -/

namespace Modes

/-- A set with the case of its members ignored, if the flags ask for that. -/
def fold (m : Modes) (span : Span) (s : CharSet) : Meaning CharSet :=
  if !m.ignoreCase then .ok s
  else if !m.unicode then .ok s.ignoreAsciiCase
  else if s.isEmpty || s.isCaseless then .ok s
  else refuse .caseUnavailable span

/-- A set or its complement. Bytes that are no characters are refused. -/
def negate (m : Modes) (span : Span) (negated : Bool) (s : CharSet) : Meaning CharSet :=
  let set := if negated then s.complement m.top else s
  if m.unicode || set.isAscii then .ok set else refuse .partialCharacters span

/-- The character that a literal stands for. A byte is a character only in `ASCII`. -/
def literal (m : Modes) (l : Literal) : Meaning Char :=
  if !m.unicode && l.isByte && 128 ≤ l.char.toNat then refuse .partialCharacters l.span
  else .ok l.char

/-- The character that a literal stands for in a set. -/
def member (m : Modes) (l : Literal) : Meaning Nat := do
  let c ← m.literal l
  if m.unicode ∨ c.toNat < 128 then return c.toNat else refuse .unicodeNotAllowed l.span

end Modes

/-- The digits, blanks or word characters of `ASCII`. -/
def LetterSet.ranges : LetterSet → List (Nat × Nat)
  | digit => [(0x30, 0x39)]
  | space => [(0x09, 0x0D), (0x20, 0x20)]
  | word => [(0x30, 0x39), (0x41, 0x5A), (0x5F, 0x5F), (0x61, 0x7A)]

/-- The set that a letter stands for. -/
def LetterClass.meaning (m : Modes) (c : LetterClass) : Meaning CharSet :=
  if m.unicode then refuse .letterClassUnavailable c.span
  else m.negate c.span c.negated (.ofRanges c.set.ranges)

/-- The name of a property without the differences that do not matter: case, blanks, hyphens,
underscores and a leading `is`. -/
def PropertyClass.key (c : PropertyClass) : List Char :=
  let name := match c.name with
    | 'i' :: 's' :: rest | 'i' :: 'S' :: rest | 'I' :: 's' :: rest | 'I' :: 'S' :: rest => rest
    | name => name
  (name.filter fun c => c.toNat < 128 && c ≠ ' ' && c ≠ '-' && c ≠ '_').map Char.toLower

/-- The names of properties that can only be values of another property. -/
def valueNames : List (List Char) :=
  ["cf".toList, "sc".toList, "lc".toList]

/-- The set that a property describes. No property is known. -/
def PropertyClass.meaning (m : Modes) (c : PropertyClass) : Meaning CharSet :=
  if !m.unicode then refuse .unicodeNotAllowed c.span
  else if !c.hasValue && valueNames.contains c.key then refuse .propertyValueUnknown c.span
  else refuse .propertyUnknown c.span

/-- The result of an operation on two sets. -/
def SetOperation.apply (operation : SetOperation) (top : Nat) (s t : CharSet) : CharSet :=
  match operation with
  | intersection => s.intersection top t
  | difference => s.difference top t
  | symmetricDifference => s.symmetricDifference top t

mutual

/-- The set that a description stands for. -/
def ClassExpression.meaning (m : Modes) : ClassExpression → Meaning CharSet
  | .nothing _ => return .empty
  | .literal l => return .ofRanges [(← m.member l, ← m.member l)]
  | .range _ first last => return .ofRanges [(← m.member first, ← m.member last)]
  | .named span ranges negated => do m.negate span negated (← m.fold span (.ofRanges ranges))
  | .letters c => c.meaning m
  | .property c => c.meaning m
  | .bracketed span negated inner => do
    m.negate span negated (← m.fold span (← inner.meaning m))
  | .union _ parts => ClassExpression.unionMeaning m parts
  | .combined _ operation left right => do
    let s ← left.meaning m
    let t ← right.meaning m
    let t ← m.fold right.span t
    let s ← m.fold left.span s
    return operation.apply m.top s t

/-- The set of the members of several sets. -/
def ClassExpression.unionMeaning (m : Modes) : List ClassExpression → Meaning CharSet
  | [] => return .empty
  | part :: rest => do
    let s ← part.meaning m
    let t ← ClassExpression.unionMeaning m rest
    return s.union t

end

/-! ## Expressions -/

/-- The character that a dot stands for: any that does not end a line, or any at all. -/
def Modes.anyCharacter (m : Modes) (span : Span) : Meaning CharSet :=
  if !m.unicode then refuse .partialCharacters span
  else
    let excluded :=
      if m.dotMatchesAll then CharSet.empty
      else if m.returnLineFeed then .ofRanges [(0x0A, 0x0A), (0x0D, 0x0D)]
      else .singleton '\n'
    .ok (excluded.complement m.top)

/-- A character, in both cases if its case is ignored. -/
def Modes.character (m : Modes) (l : Literal) : Meaning CharSet := do
  let c ← m.literal l
  if m.ignoreCase ∧ !m.unicode ∧ 128 ≤ c.toNat then return .singleton c
  else m.fold l.span (.singleton c)

/-- The place that an assertion asks for. -/
def Modes.assertion (m : Modes) (kind : AssertionKind) : Matcher :=
  let word (place : WordPlace) : Matcher := if m.unicode then .anyWord place else .look (.word place)
  match kind with
  | .lineStart =>
    .look (if !m.multiLine then .textStart else if m.returnLineFeed then .returnLineStart
      else .lineStart)
  | .lineEnd =>
    .look (if !m.multiLine then .textEnd else if m.returnLineFeed then .returnLineEnd
      else .lineEnd)
  | .textStart => .look .textStart
  | .textEnd => .look .textEnd
  | .wordBoundary => word .boundary
  | .noWordBoundary => word .noBoundary
  | .wordStart => word .start
  | .wordEnd => word .stop
  | .wordStartHalf => word .startHalf
  | .wordEndHalf => word .stopHalf

mutual

/-- The matcher that an expression stands for, and the flags behind it. Flags that are set in a
group have no effect behind it. -/
def Expression.meaning (m : Modes) : Expression → Meaning (Matcher × Modes)
  | .empty _ => return (.empty, m)
  | .flags _ items => return (.empty, m.update items)
  | .literal l => return (.oneOf (← m.character l), m)
  | .anyCharacter span => return (.oneOf (← m.anyCharacter span), m)
  | .assertion _ kind => return (m.assertion kind, m)
  | .characters c => return (.oneOf (← c.meaning m), m)
  | .repetition _ least most inner => do
    let (matcher, _) ← inner.meaning m
    return (matcher.times least most, m)
  | .capture _ inner => do
    let (matcher, _) ← inner.meaning m
    return (.captured matcher, m)
  | .group _ items inner => do
    let (matcher, _) ← inner.meaning (m.update items)
    return (matcher, m)
  | .alternation _ branches => Expression.alternativesMeaning m branches
  | .concatenation _ parts => Expression.sequenceMeaning m parts

/-- The matcher for parts one after the other, and the flags behind them. -/
def Expression.sequenceMeaning (m : Modes) : List Expression → Meaning (Matcher × Modes)
  | [] => return (.empty, m)
  | part :: rest => do
    let (first, m) ← part.meaning m
    let (others, m) ← Expression.sequenceMeaning m rest
    return (first.append others, m)

/-- The matcher for alternatives, and the flags behind them. Flags that are set in an alternative
are in force in the next. -/
def Expression.alternativesMeaning (m : Modes) : List Expression → Meaning (Matcher × Modes)
  | [] => return (.empty, m)
  | [branch] => branch.meaning m
  | branch :: rest => do
    let (first, m) ← branch.meaning m
    let (others, m) ← Expression.alternativesMeaning m rest
    return (first.orElse others, m)

end

end BitmapFont.Pattern
