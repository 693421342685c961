import BitmapFont.Session
import BitmapFont.FontSettings
import BitmapFont.Text.Quoted

/-!
# Glyph source text

Each line `c=row,row,…` defines the glyph of the character `c`. A row is written in base two, one
digit for each pixel, and may start with `0b`. Empty lines and lines that start with `//` are
comments. A line that defines nothing is passed over with a warning, but a definition with a
mistake in its rows ends the reading.

## Main definitions

- `GlyphSource.parseRow` — the value of a written row
- `GlyphSource.classify` — what a line is
- `GlyphSource.readLines` — the definitions of numbered lines
- `GlyphSource.readText`, `GlyphSource.read` — the definitions of a text
-/

namespace BitmapFont

/-- A glyph as it is defined: its character, the index of the character, and its rows. -/
structure GlyphDefinition where
  char : Char
  index : UInt8
  rows : List UInt64
  deriving DecidableEq

/-- The mistake in a definition, with the number of its line. -/
inductive GlyphError
  | wrongWidth (line expected found : Nat)
  | invalidDigit (line : Nat) (row : String)
  /-- A row whose value is too great, which the limit on its width rules out. -/
  | overflow (line : Nat) (row : String)
  | wrongHeight (char : Char) (line expected found : Nat)
  deriving DecidableEq

/-- The text of a mistake, followed by the texts of its causes. -/
def GlyphError.chain : GlyphError → List String
  | wrongWidth line expected found =>
    [s!"Font width mismatch at line {line}: expected {expected}, got {found}"]
  | invalidDigit line row => [s!"Invalid value detected at line {line}: {row} is invalid value."]
  | overflow line row =>
    [s!"Invalid value detected at line {line}: {row}", "number too large to fit in target type"]
  | wrongHeight char line expected found =>
    [s!"Binary is missing for {char} at line {line}, expected {expected} but got {found}"]

namespace GlyphSource

/-- The number that digits in base two stand for. -/
def rowValue (digits : List Char) : Nat :=
  digits.foldl (fun n c => 2 * n + if c = '1' then 1 else 0) 0

/-- The digits of a written row without blanks around it: at most one `0b` before them is
dropped. -/
def rowDigits : List Char → List Char
  | '0' :: 'b' :: rest => rest
  | row => row

/-- The value of a row as it is written on the line with number `n`. -/
def parseRow (width : RowWidth) (n : Nat) (written : List Char) : Except GlyphError UInt64 :=
  let row := Text.trim written
  let digits := rowDigits row
  if digits.length ≠ width.bits then .error (.wrongWidth n width.bits digits.length)
  else if !digits.all (fun c => c = '0' || c = '1') then .error (.invalidDigit n (String.ofList row))
  else if UInt64.size ≤ rowValue digits then .error (.overflow n (String.ofList row))
  else .ok (UInt64.ofNat (rowValue digits))

/-- The text in which a line gives its rows: what follows the first equals sign. A line that
starts with an equals sign defines the glyph of that character. Its second character should be
another equals sign, but any character of one byte is taken for it; without one there is no
text. -/
def body? : List Char → Option (List Char)
  | '=' :: second :: rest => some (if second.utf8Size = 1 then rest else [])
  | ['='] => some []
  | line => (Text.cut? '=' line).map (·.2)

/-- What a line of a glyph source is. -/
inductive Line
  /-- An empty line or a comment. -/
  | ignored
  /-- A line that defines nothing. -/
  | skipped (note : Diagnostic)
  /-- A line that defines the glyph of a character, and the text of its rows. -/
  | definition (char : Char) (index : UInt8) (body : List Char)

/-- What the line with number `n` is, after the given indices have been defined. -/
def classify (charset : Charset) (used : IndexSet) (n : Nat) (line : List Char) : Line :=
  match line with
  | [] => .ignored
  | char :: _ =>
    if ['/', '/'].isPrefixOf line then .ignored
    else
      match charset.encode char with
      | none =>
        .skipped (.warn n (s!"Character {Text.quotedChar char} at line {n} cannot be encoded in "
          ++ s!"{charset.name}. Skipping."))
      | some index =>
        if used.contains index then .skipped (.warn n s!"Glyph for {char} is already defined.")
        else
          match body? line with
          | none =>
            .skipped (.warn n
              s!"Syntax Error at line {n}: {String.ofList line} is not a valid format.")
          | some body => .definition char index body

/-- The rows that the text of a definition gives. -/
def parseRows (settings : FontSettings) (n : Nat) (char : Char) (body : List Char) :
    Except GlyphError (List UInt64) := do
  let rows ← (Text.pieces ',' body).mapM (parseRow settings.width n)
  if rows.length = settings.height.toNat then return rows
  throw (.wrongHeight char n settings.height.toNat rows.length)

/-- The outcome of reading: the definitions before the first mistake, the mistake if there is one,
what there is to say about the lines, and the indices then in use. -/
structure Reading where
  definitions : List GlyphDefinition
  failure : Option GlyphError
  notes : List Diagnostic
  used : IndexSet

/-- The definitions of numbered lines, after the given indices have been defined. -/
def readLines (settings : FontSettings) : IndexSet → List (Nat × List Char) → Reading
  | used, [] => ⟨[], none, [], used⟩
  | used, (n, line) :: rest =>
    match classify settings.charset used n line with
    | .ignored => readLines settings used rest
    | .skipped note =>
      let reading := readLines settings used rest
      { reading with notes := note :: reading.notes }
    | .definition char index body =>
      let note := Diagnostic.debug n s!"Compiling for char {char}..."
      match parseRows settings n char body with
      | .error e => ⟨[], some e, [note], used⟩
      | .ok rows =>
        let reading := readLines settings (used.insert index) rest
        { reading with
          definitions := ⟨char, index, rows⟩ :: reading.definitions
          notes := note :: reading.notes }

/-- The definitions and the mistake, if there is one, in the order of the lines. -/
def Reading.items (reading : Reading) : List (Except GlyphError GlyphDefinition) :=
  reading.definitions.map .ok ++ reading.failure.toList.map .error

/-- The definitions of a text, after the given indices have been defined. -/
def readText (settings : FontSettings) (text : String) (used : IndexSet) : Reading :=
  readLines settings used (Text.numbered (Text.lines text.toList))

/-- The definitions of a text and the mistake that ends them, and the session after them. -/
def read (settings : FontSettings) (text : String) (session : Session) :
    List (Except GlyphError GlyphDefinition) × Session :=
  let reading := readText settings text session.used
  (reading.items, ⟨session.diagnostics.append reading.notes, reading.used⟩)

end GlyphSource

end BitmapFont
