import BitmapFont.Text.CodeRange

/-!
# Sets of characters

Sets of characters are kept as ranges of code points.
-/

namespace BitmapFont.Pattern

/-- A set of characters. -/
structure CharSet where
  /-- The inclusive ranges of code points, in ascending order and with gaps between them. -/
  ranges : List (Nat × Nat)
  /-- Whether the set is known to hold with each character its forms in upper and lower case. -/
  isCaseless : Bool

namespace CharSet

/-- A range and those after it in ascending order of their beginnings, with ranges joined that have
no gap between them. -/
def joinFrom (first last : Nat) : List (Nat × Nat) → List (Nat × Nat)
  | [] => [(first, last)]
  | (next, stop) :: rest =>
    if next ≤ last + 1 then joinFrom first (max last stop) rest
    else (first, last) :: joinFrom next stop rest

/-- The ranges of a set that has the members of all given ranges. -/
def normalize (ranges : List (Nat × Nat)) : List (Nat × Nat) :=
  match ranges.mergeSort fun a b => a.1 ≤ b.1 with
  | [] => []
  | (first, last) :: rest => joinFrom first last rest

/-- The set without members. -/
def empty : CharSet := ⟨[], true⟩

/-- The set of the characters in some ranges of code points. -/
def ofRanges (ranges : List (Nat × Nat)) : CharSet := ⟨normalize ranges, false⟩

/-- The set with one member. -/
def singleton (c : Char) : CharSet := ⟨[(c.toNat, c.toNat)], false⟩

/-- Whether a character is a member. -/
def contains (s : CharSet) (c : Char) : Bool :=
  Text.inRanges s.ranges c.toNat

/-- Whether a set has no members. -/
def isEmpty (s : CharSet) : Bool :=
  s.ranges.isEmpty

/-- Whether all members are `ASCII` characters. -/
def isAscii (s : CharSet) : Bool :=
  s.ranges.all fun (_, last) => last < 128

/-- The only member of a set that has just one. -/
def only? (s : CharSet) : Option Char :=
  match s.ranges with
  | [(first, last)] => if first = last then some (Char.ofNat first) else none
  | _ => none

/-- The set of the members of two sets. -/
def union (s t : CharSet) : CharSet :=
  if t.isEmpty then s else ⟨normalize (s.ranges ++ t.ranges), s.isCaseless && t.isCaseless⟩

/-- The ranges from `next` to `top` that lie between ranges in ascending order. -/
def gaps (next top : Nat) : List (Nat × Nat) → List (Nat × Nat)
  | [] => if next ≤ top then [(next, top)] else []
  | (first, last) :: rest =>
    (if next < first then [(next, first - 1)] else []) ++ gaps (last + 1) top rest

/-- The code points up to `top` that are no members. The code points from `0xD800` to `0xDFFF` are
no characters. -/
def complement (top : Nat) (s : CharSet) : CharSet :=
  ⟨gaps 0 top (normalize ((0xD800, 0xDFFF) :: s.ranges)), s.isCaseless⟩

/-- The common members of two sets. -/
def intersection (top : Nat) (s t : CharSet) : CharSet :=
  ((s.complement top).union (t.complement top)).complement top

/-- The members of one set that are no members of another. -/
def difference (top : Nat) (s t : CharSet) : CharSet :=
  s.intersection top (t.complement top)

/-- The members of two sets that are no members of both. -/
def symmetricDifference (top : Nat) (s t : CharSet) : CharSet :=
  (s.union t).difference top (s.intersection top t)

/-- The part of a range that lies between two code points, moved to another code point. -/
def moved (first last target : Nat) (range : Nat × Nat) : Option (Nat × Nat) :=
  let low := max first range.1
  let high := min last range.2
  if low ≤ high then some (low - first + target, high - first + target) else none

/-- The set with the upper and lower case of its `ASCII` letters. -/
def ignoreAsciiCase (s : CharSet) : CharSet :=
  let upper := s.ranges.filterMap (moved 'a'.toNat 'z'.toNat 'A'.toNat)
  let lower := s.ranges.filterMap (moved 'A'.toNat 'Z'.toNat 'a'.toNat)
  ⟨normalize (s.ranges ++ upper ++ lower), true⟩

end CharSet

end BitmapFont.Pattern
