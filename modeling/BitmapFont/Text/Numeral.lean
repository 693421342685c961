/-!
# Numerals

The written forms of numbers in messages and in project files.
-/

namespace BitmapFont.Text

/-- The digits of a number in a base of at most sixteen, without leading zeros. -/
def digits (base n : Nat) : String :=
  String.ofList (Nat.toDigits base n)

/-- The digits of a number with zeros before them, so that there are at least `width`. -/
def paddedDigits (base width n : Nat) : String :=
  let figures := Nat.toDigits base n
  String.ofList (List.replicate (width - figures.length) '0' ++ figures)

/-- A number in base two, such as `0b101`. -/
def binary (n : Nat) : String :=
  "0b" ++ digits 2 n

/-- A byte as two digits in base sixteen, such as `0x0a`. -/
def hexByte (b : UInt8) : String :=
  "0x" ++ paddedDigits 16 2 b.toNat

/-- The number that decimal digits stand for. -/
def decimalValue (s : List Char) : Nat :=
  s.foldl (fun n c => 10 * n + (c.toNat - '0'.toNat)) 0

/-- The byte that a decimal literal stands for: an optional plus sign and at least one digit, with
a value of at most 255. Leading zeros are allowed. -/
def byte? (s : List Char) : Option UInt8 :=
  let figures := match s with
    | '+' :: rest => rest
    | _ => s
  if figures ≠ [] ∧ figures.all Char.isDigit ∧ decimalValue figures ≤ 255 then
    some (UInt8.ofNat (decimalValue figures))
  else
    none

end BitmapFont.Text
