import BitmapFont.Text.UpperCase

/-!
# Character sets

A character set assigns single bytes, the indices of glyphs, to the characters that a font can
draw. A font file names its character set by a tag, a project by a name.
-/

namespace BitmapFont

/-- The character sets that fonts can use. -/
inductive Charset
  /-- The 128 characters of ASCII, each with its code point as index. -/
  | ascii
  deriving DecidableEq

namespace Charset

/-- Every character set. -/
def all : List Charset := [ascii]

/-- The name that selects a character set in a project, in upper case. -/
def name : Charset → String
  | ascii => "ASCII"

/-- The byte that stands for a character set in a font file. -/
def tag : Charset → UInt8
  | ascii => 0

/-- The index of a character, if the set contains it. -/
def encode : Charset → Char → Option UInt8
  | ascii, c => if c.toNat < 128 then some (UInt8.ofNat c.toNat) else none

/-- The character with a given index. -/
def decode : Charset → UInt8 → Option Char
  | ascii, index => if index.toNat < 128 then some (Char.ofNat index.toNat) else none

/-- The character set with a given tag. -/
def ofTag? (tag : UInt8) : Option Charset := all.find? (·.tag == tag)

/-- The character set with a given name, which is compared in upper case. -/
def ofName? (name : String) : Option Charset := all.find? (·.name == Text.upperCase name)

/-- The characters with the given indices, where a question mark stands for an index without a
character. -/
def decodeAll (charset : Charset) (indices : List UInt8) : List Char :=
  indices.map fun index => (charset.decode index).getD '?'

end Charset

end BitmapFont
