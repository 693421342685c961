/-!
# Places in patterns

Faults in the text of a pattern are reported by where they are: by lines and columns.
-/

namespace BitmapFont.Pattern

/-- A place in a pattern. Lines and columns count from one. -/
structure Position where
  line : Nat
  column : Nat
  deriving DecidableEq

namespace Position

/-- The place before the first character. -/
def start : Position := ⟨1, 1⟩

/-- The place behind a character. -/
def after (p : Position) (c : Char) : Position :=
  if c = '\n' then ⟨p.line + 1, 1⟩ else ⟨p.line, p.column + 1⟩

end Position

/-- The part of a pattern between two places. -/
structure Span where
  start : Position
  stop : Position
  deriving DecidableEq

namespace Span

/-- The empty span at a place. -/
def empty (p : Position) : Span := ⟨p, p⟩

/-- Whether a span lies in one line. -/
def isOneLine (s : Span) : Bool :=
  s.start.line = s.stop.line

end Span

end BitmapFont.Pattern
