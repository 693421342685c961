import BitmapFont.Text.Combining
import BitmapFont.Text.Numeral
import BitmapFont.Text.Printable

/-!
# Quoted text

Messages quote text from their input so that it can be told apart from their own words. Quotes,
backslashes and line breaks are escaped by a backslash; combining and unprintable characters are
written by their code point, as in `\u{301}`.
-/

namespace BitmapFont.Text

/-- The form of a character inside text between two quotes, which is escaped itself. -/
def escape (quote c : Char) : List Char :=
  if c = '\x00' then ['\\', '0']
  else if c = '\t' then ['\\', 't']
  else if c = '\r' then ['\\', 'r']
  else if c = '\n' then ['\\', 'n']
  else if c = '\\' ∨ c = quote then ['\\', c]
  else if isCombining c ∨ !isPrintable c then
    ['\\', 'u', '\x7b'] ++ Nat.toDigits 16 c.toNat ++ ['\x7d']
  else [c]

/-- A text between two quotes. -/
def enclose (quote : Char) (s : List Char) : String :=
  String.ofList (quote :: s.flatMap (escape quote) ++ [quote])

/-- A text in double quotes. Single quotes stand for themselves. -/
def quoted (s : String) : String :=
  enclose '"' s.toList

/-- A character in single quotes. Double quotes stand for themselves. -/
def quotedChar (c : Char) : String :=
  enclose '\'' [c]

end BitmapFont.Text
