import BitmapFont.Pattern.CharSet

/-!
# Matching

A matcher is the meaning of a pattern. What it does in a text is told by places, which lie before,
between and behind the characters: from a set of places where a match may start it leads to the
places where the match may end.

## Main definitions

- `Matcher` — what a text must look like
- `Matcher.reach` — the places that a matcher leads to
- `Matcher.occursIn` — whether a matcher leads anywhere in a text
-/

namespace BitmapFont.Pattern

/-- The places that are asked for by how they lie to words of letters. -/
inductive WordPlace
  | boundary
  | noBoundary
  | start
  | stop
  | startHalf
  | stopHalf
  deriving DecidableEq

/-- Whether a place lies as asked for, by whether there is a character of a word before it and
behind it. -/
def WordPlace.holds (place : WordPlace) (before behind : Bool) : Bool :=
  match place with
  | boundary => before != behind
  | noBoundary => before == behind
  | start => !before && behind
  | stop => before && !behind
  | startHalf => !before
  | stopHalf => !behind

/-- A condition on a place in a text. -/
inductive Look
  | textStart
  | textEnd
  | lineStart
  | lineEnd
  /-- The start of a line where lines end in a carriage return, a line feed, or both. -/
  | returnLineStart
  | returnLineEnd
  | word (place : WordPlace)
  deriving DecidableEq

namespace Look

/-- Whether a character belongs to a word: an `ASCII` letter or digit, or an underscore. -/
def isWordChar (c : Char) : Bool :=
  c.isAlphanum || c = '_'

/-- Whether a condition holds between two characters, each of which may be missing at an end of the
text. -/
def holds (look : Look) (before behind : Option Char) : Bool :=
  match look with
  | textStart => before.isNone
  | textEnd => behind.isNone
  | lineStart => before.all (· = '\n')
  | lineEnd => behind.all (· = '\n')
  | returnLineStart => before.all fun c => c = '\n' || c = '\r' && behind ≠ some '\n'
  | returnLineEnd => behind.all fun c => c = '\r' || c = '\n' && before ≠ some '\r'
  | word place => place.holds (before.any isWordChar) (behind.any isWordChar)

end Look

/-- What a text must look like. -/
inductive Matcher
  | empty
  | oneOf (s : CharSet)
  | look (l : Look)
  /-- A place at a word of letters of all scripts. -/
  | anyWord (place : WordPlace)
  | followedBy (first second : Matcher)
  | either (first second : Matcher)
  | repeated (least : Nat) (most : Option Nat) (inner : Matcher)
  | captured (inner : Matcher)

namespace Matcher

/-! ## Composition -/

/-- Whether a matcher can only match the empty text. -/
def isBlank : Matcher → Bool
  | empty | look _ | anyWord _ => true
  | oneOf _ => false
  | followedBy first second | either first second => first.isBlank && second.isBlank
  | repeated _ most inner => most == some 0 || inner.isBlank
  | captured inner => inner.isBlank

/-- Two matchers, one after the other. -/
def append : Matcher → Matcher → Matcher
  | empty, second => second
  | first, empty => first
  | first, second => followedBy first second

/-- Two matchers as alternatives. Two sets are one. -/
def orElse : Matcher → Matcher → Matcher
  | oneOf s, oneOf t => oneOf (s.union t)
  | first, second => either first second

/-- A matcher several times. What only matches the empty text need not be tried twice. -/
def times (least : Nat) (most : Option Nat) (inner : Matcher) : Matcher :=
  let counts := if inner.isBlank then (min least 1, some (min (most.getD 1) 1)) else (least, most)
  if counts = (0, some 0) then empty
  else if counts = (1, some 1) then inner
  else repeated counts.1 counts.2 inner

/-- Whether a matcher asks for words of letters of all scripts. -/
def usesAnyWord : Matcher → Bool
  | empty | oneOf _ | look _ => false
  | anyWord _ => true
  | followedBy first second | either first second => first.usesAnyWord || second.usesAnyWord
  | repeated _ _ inner | captured inner => inner.usesAnyWord

/-! ## Places -/

/-- A set of places in a text: for each place, from the first to the last, whether it belongs. -/
abbrev Places := List Bool

/-- The places of two sets. -/
def merge (p q : Places) : Places :=
  p.zipWith (· || ·) q

/-- Repeats a step up to `n` times, but not after it has changed nothing. -/
def iterate (step : Places → Places) : Nat → Places → Places
  | 0, p => p
  | n + 1, p =>
    let q := step p
    if q = p then p else iterate step n q

/-- The places where matches end that start at one of several places of a text. Of a path through
more places than the text has, one step stays where it is; so there is no need for more rounds of a
repetition than there are places. -/
def reach (text : List Char) : Matcher → Places → Places
  | empty, p => p
  | oneOf s, p => false :: p.zipWith (fun reached c => reached && s.contains c) text
  | look l, p =>
    let before := none :: text.map some
    let behind := text.map some ++ [none]
    p.zipWith (· && ·) (before.zipWith l.holds behind)
  | anyWord _, p => p.map fun _ => false
  | followedBy first second, p => second.reach text (first.reach text p)
  | either first second, p => merge (first.reach text p) (second.reach text p)
  | repeated least most inner, p =>
    let rounds := p.length
    let start := iterate (inner.reach text) (min least rounds) p
    let further := match most with
      | some most => min (most - least) rounds
      | none => rounds
    iterate (fun q => merge start (inner.reach text q)) further start
  | captured inner, p => inner.reach text p

/-- Whether a matcher matches some part of a text. -/
def occursIn (m : Matcher) (text : List Char) : Bool :=
  (m.reach text (List.replicate (text.length + 1) true)).any id

end Matcher

end BitmapFont.Pattern
