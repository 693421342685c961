import BitmapFont.Pattern.Expression
import BitmapFont.Pattern.Reading
import BitmapFont.Text.Numeral

/-!
# Escapes

A backslash takes from a character of the syntax its meaning, or gives a letter one.
-/

namespace BitmapFont.Pattern

/-- What an escape stands for. -/
inductive Escape
  | literal (l : Literal)
  | letters (c : LetterClass)
  | property (c : PropertyClass)
  | assertion (span : Span) (kind : AssertionKind)

namespace Escape

/-- The place of an escape. -/
def span : Escape → Span
  | literal l => l.span
  | letters c => c.span
  | property c => c.span
  | assertion span _ => span

/-- An escape as a part of a pattern. -/
def expression : Escape → Expression
  | literal l => .literal l
  | letters c => .characters (.letters c)
  | property c => .characters (.property c)
  | assertion span kind => .assertion span kind

end Escape

namespace Reading

/-- Whether a character is a digit in base sixteen. -/
def isHexDigit (c : Char) : Bool :=
  c.isDigit || ('a' ≤ c && c ≤ 'f') || ('A' ≤ c && c ≤ 'F')

/-- The value of a digit in base sixteen. -/
def hexValue (c : Char) : Nat :=
  if c.isDigit then c.toNat - '0'.toNat else c.toLower.toNat - 'a'.toNat + 10

/-- The character with the code point that digits in base sixteen give. -/
def hexChar? (digits : List Char) : Option Char :=
  let code := digits.foldl (fun n c => 16 * n + hexValue c) 0
  if code.isValidChar then some (Char.ofNat code) else none

/-- Reads digits in base sixteen, and blanks between and behind them. -/
def readHexDigits : Nat → Reading (List Char)
  | 0 => return []
  | n + 1 => do
    match ← peek with
    | none => failHere .escapeEnd
    | some c =>
      unless isHexDigit c do failNext .hexDigit
      skipOn
      return c :: (← readHexDigits n)

/-- Reads the digits of a code point, either in braces or as many as its letter asks for. -/
def readHex (start : Position) (letter : Char) : Reading Literal := do
  skipOn
  let opening ← position
  match ← peek with
  | none => failHere .escapeEnd
  | some '\x7b' =>
    let inside := (← nextSpan).stop
    skipOn
    let digits ← collect isHexDigit
    let closing ← position
    match ← peek with
    | none => fail .escapeEnd (← spanFrom opening)
    | some '\x7d' => skipOn
    | some _ => failNext .hexDigit
    if digits = [] then fail .hexEmpty (← spanFrom opening)
    match hexChar? digits with
    | some c => return ⟨← spanFrom start, c, false⟩
    | none => fail .hexRange ⟨inside, closing⟩
  | some _ =>
    let count := if letter = 'x' then 2 else if letter = 'u' then 4 else 8
    let digits ← readHexDigits count
    match hexChar? digits with
    | some c => return ⟨← spanFrom start, c, letter = 'x'⟩
    | none => fail .hexRange (← spanFrom opening)

/-- Whether the name of a property comes with a value. -/
def hasPropertyValue : List Char → Bool
  | [] => false
  | '!' :: '=' :: _ => true
  | c :: rest => c = ':' || c = '=' || hasPropertyValue rest

/-- Reads the name of a property: one letter, or a name in braces. -/
def readProperty (start : Position) : Reading PropertyClass := do
  skipOn
  match ← peek with
  | none => failHere .escapeEnd
  | some '\x7b' =>
    skipOn
    let name ← collect (· ≠ '\x7d')
    if (← peek).isNone then failHere .escapeEnd
    skip
    return ⟨← spanFrom start, name, hasPropertyValue name⟩
  | some c =>
    if c = '\\' then failNext .propertyLetter
    skipOn
    return ⟨← spanFrom start, [c], false⟩

/-- The names of places at words. -/
def wordNames : List (List Char × AssertionKind) :=
  [("start".toList, .wordStart), ("end".toList, .wordEnd),
   ("start-half".toList, .wordStartHalf), ("end-half".toList, .wordEndHalf)]

/-- Reads the name of a place at a word in braces, if there is one. Braces that hold anything but
letters and hyphens are left for the count of a repetition. -/
def readWordName (start : Position) : Reading (Option AssertionKind) := do
  let isNameChar (c : Char) : Bool := c.isAlpha || c = '-'
  let outside ← get
  skipOn
  let inside ← position
  match ← peek with
  | none => fail .wordEnd (← spanFrom start)
  | some c =>
    if isNameChar c then
      let name ← collect isNameChar
      let span ← spanFrom inside
      unless (← peek) = some '\x7d' do fail .wordUnclosed (← spanFrom outside.position)
      skip
      match wordNames.lookup name with
      | some kind => return some kind
      | none => fail .wordUnknown span
    else
      set outside
      return none

/-- The characters that letters behind a backslash stand for. -/
def controlChars : List (Char × Char) :=
  [('a', '\x07'), ('f', '\x0c'), ('t', '\t'), ('n', '\n'), ('r', '\r'), ('v', '\x0b')]

/-- The places that characters behind a backslash stand for. -/
def assertionChars : List (Char × AssertionKind) :=
  [('A', .textStart), ('z', .textEnd), ('b', .wordBoundary), ('B', .noWordBoundary),
   ('<', .wordStart), ('>', .wordEnd)]

/-- The sets of characters that letters behind a backslash stand for. -/
def letterSets : List (Char × LetterSet) :=
  [('d', .digit), ('s', .space), ('w', .word)]

/-- Reads an escape. -/
def readEscape : Reading Escape := do
  let start ← position
  skip
  match ← peek with
  | none => fail .escapeEnd (← spanFrom start)
  | some c =>
    if c.isDigit then fail .backreference ⟨start, (← nextSpan).stop⟩
    if c = 'x' ∨ c = 'u' ∨ c = 'U' then return .literal (← readHex start c)
    if c = 'p' ∨ c = 'P' then return .property (← readProperty start)
    skip
    let span ← spanFrom start
    if let some set := letterSets.lookup c.toLower then
      return .letters ⟨span, set, c.isUpper⟩
    if let some char := controlChars.lookup c then return .literal ⟨span, char, false⟩
    if let some kind := assertionChars.lookup c then
      if c = 'b' ∧ (← peek) = some '\x7b' then
        if let some named ← readWordName start then
          return .assertion (← spanFrom start) named
      return .assertion span kind
    if c.toNat < 128 ∧ !c.isAlphanum then return .literal ⟨span, c, false⟩
    fail .escapeUnknown span

end Reading

end BitmapFont.Pattern
