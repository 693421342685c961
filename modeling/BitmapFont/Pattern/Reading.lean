import BitmapFont.Pattern.Fault
import BitmapFont.Text.Blank

/-!
# Reading patterns

A pattern is read from its start to its end, one character at a time, by actions that know the
place of what is left to read.

## Main definitions

- `Cursor` — what is left to read
- `Reading` — an action that reads a part of a pattern
-/

namespace BitmapFont.Pattern

/-- What is left of a pattern, and what its read part means for the rest. -/
structure Cursor where
  rest : List Char
  position : Position
  /-- Whether blanks and comments between the parts of the pattern are skipped. -/
  spaced : Bool
  /-- The names of the groups so far. -/
  names : List (List Char × Span)

namespace Cursor

/-- The cursor before the first character of a pattern. -/
def ofText (source : String) : Cursor :=
  ⟨source.toList, .start, false, []⟩

/-- The cursor behind the next character. -/
def next (c : Cursor) : Cursor :=
  match c.rest with
  | [] => c
  | char :: rest => { c with rest, position := c.position.after char }

/-- The cursor behind several characters. -/
def advance (c : Cursor) : Nat → Cursor
  | 0 => c
  | n + 1 => c.next.advance n

/-- The number of characters before the first that is neither blank nor in a comment. A comment
starts with a number sign and ends with its line. -/
def blankLength (inComment : Bool) : List Char → Nat
  | [] => 0
  | char :: rest =>
    if inComment then 1 + blankLength (char ≠ '\n') rest
    else if Text.isBlank char then 1 + blankLength false rest
    else if char = '#' then 1 + blankLength true rest
    else 0

/-- The cursor behind blanks and comments, if they are skipped. -/
def skipBlanks (c : Cursor) : Cursor :=
  if c.spaced then c.advance (blankLength false c.rest) else c

/-- The character behind the next one. Where blanks are skipped, one number sign among them is
skipped too. -/
def second? (c : Cursor) : Option Char :=
  let rest := c.rest.tail
  let found := match rest.dropWhile Text.isBlank with
    | '#' :: comment => (comment.dropWhile Text.isBlank).head?
    | other => other.head?
  if c.spaced then found.or rest.head? else rest.head?

end Cursor

/-- An action that reads a part of a pattern. -/
abbrev Reading := StateT Cursor (Except Malformed)

namespace Reading

/-- The next character, which stays to be read. -/
def peek : Reading (Option Char) :=
  return (← get).rest.head?

/-- The place of the next character. -/
def position : Reading Position :=
  return (← get).position

/-- The span of the next character. -/
def nextSpan : Reading Span :=
  return ⟨(← get).position, (← get).next.position⟩

/-- The span from an earlier place up to here. -/
def spanFrom (start : Position) : Reading Span :=
  return ⟨start, ← position⟩

/-- Reads one character. -/
def skip : Reading Unit :=
  modify Cursor.next

/-- Reads blanks and comments where they are skipped. -/
def skipBlanks : Reading Unit :=
  modify Cursor.skipBlanks

/-- Reads one character and the blanks behind it. -/
def skipOn : Reading Unit := do
  skip
  skipBlanks

/-- Reads a text if it comes next, and tells whether it did. -/
def skipText (text : List Char) : Reading Bool := do
  if text.isPrefixOf (← get).rest then
    modify (·.advance text.length)
    return true
  else
    return false

/-- Ends with a fault. -/
def fail {α : Type} (fault : Fault) (span : Span) : Reading α :=
  throw ⟨fault, span, none⟩

/-- Ends with a fault here, between two characters. -/
def failHere {α : Type} (fault : Fault) : Reading α := do
  fail fault (.empty (← position))

/-- Ends with a fault at the next character. -/
def failNext {α : Type} (fault : Fault) : Reading α := do
  fail fault (← nextSpan)

/-- Reads the next characters of a kind, with blanks between them where they are skipped. -/
def collectUpTo (kind : Char → Bool) : Nat → Reading (List Char)
  | 0 => return []
  | n + 1 => do
    match ← peek with
    | some c =>
      if kind c then
        skipOn
        return c :: (← collectUpTo kind n)
      else
        return []
    | none => return []

/-- Reads characters of a kind as long as they come, with blanks between them where they are
skipped. -/
def collect (kind : Char → Bool) : Reading (List Char) := do
  collectUpTo kind (← get).rest.length

end Reading

end BitmapFont.Pattern
