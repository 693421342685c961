import BitmapFont.Pattern.Matcher

/-!
# The size of patterns

Repetitions make it easy to write a pattern that takes more room than there is. The room that a
pattern takes is that of the two automata which recognize it byte by byte, one from the first byte
of a text on and one from the last byte back. Every state of an automaton takes 32 bytes and holds
its branches, of 4 bytes each where no byte is read and of 8 bytes each where ranges of bytes are.

## Main definitions

- `CharSet.encodings` — the ranges of bytes that encode the members of a set
- `Matcher.size` — the sizes of the automata for a matcher
- `Matcher.isTooLarge` — whether one of them exceeds the limit
-/

namespace BitmapFont.Pattern

/-- The sizes in bytes of the automata that read forwards and backwards. -/
structure Size where
  forward : Nat
  backward : Nat

namespace Size

/-- The size of what takes equal room in both automata. -/
def both (n : Nat) : Size := ⟨n, n⟩

/-- The sizes of two parts together. -/
def plus (s t : Size) : Size := ⟨s.forward + t.forward, s.backward + t.backward⟩

/-- The size of a part that is there `n` times. -/
def copies (n : Nat) (s : Size) : Size := ⟨n * s.forward, n * s.backward⟩

/-- The size of states with some branches that read no byte. -/
def states (count branches : Nat) : Size := both (32 * count + 4 * branches)

/-- The greatest size of an automaton. -/
def limit : Nat := 10485760

end Size

/-! ## Encodings of sets -/

/-- Numbers that are told by ranges of digits: by a first digit, and further digits below 64. -/
abbrev DigitRanges := List (Nat × Nat)

/-- The ranges of digits for the numbers from `first` to `last`, with `further` digits behind the
first one. They are cut where the range of a digit would depend on the digits before it. -/
def digitRanges : Nat → Nat → Nat → List DigitRanges
  | 0, first, last => [[(first, last)]]
  | further + 1, first, last =>
    let block := Nat.pow 64 (further + 1)
    let low := first / block
    let high := last / block
    if low = high then
      (digitRanges further (first % block) (last % block)).map ((low, low) :: ·)
    else
      let begun := first % block ≠ 0
      let unfinished := last % block ≠ block - 1
      let lowFull := if begun then low + 1 else low
      let highFull := if unfinished then high - 1 else high
      (if begun then
        (digitRanges further (first % block) (block - 1)).map ((low, low) :: ·) else [])
        ++ (if lowFull ≤ highFull then
          [(lowFull, highFull) :: List.replicate (further + 1) (0, 63)] else [])
        ++ (if unfinished then
          (digitRanges further 0 (last % block)).map ((high, high) :: ·) else [])

/-- The code points whose encodings have `further` bytes behind the first one, which is `mark` more
than the first digit. -/
structure EncodedBlock where
  first : Nat
  last : Nat
  further : Nat
  mark : Nat

/-- The blocks of code points that are encoded alike. -/
def EncodedBlock.all : List EncodedBlock :=
  [⟨0x00, 0x7F, 0, 0x00⟩, ⟨0x80, 0x7FF, 1, 0xC0⟩, ⟨0x800, 0xD7FF, 2, 0xE0⟩,
    ⟨0xE000, 0xFFFF, 2, 0xE0⟩, ⟨0x10000, 0x10FFFF, 3, 0xF0⟩]

/-- The ranges of bytes that encode the code points of a range which lie in a block. Bytes after the
first one are given without their mark. -/
def EncodedBlock.encodings (b : EncodedBlock) (range : Nat × Nat) : List DigitRanges :=
  match CharSet.moved b.first b.last b.first range with
  | none => []
  | some (first, last) =>
    (digitRanges b.further first last).map (·.modifyHead fun d => (d.1 + b.mark, d.2 + b.mark))

/-- The sequences of ranges of bytes that encode the members of a set. -/
def CharSet.encodings (s : CharSet) : List DigitRanges :=
  s.ranges.flatMap fun range => EncodedBlock.all.flatMap (·.encodings range)

/-- The sizes of the automata for a set. Encodings that begin or end alike share states. -/
def CharSet.size (s : CharSet) : Size :=
  match s.only? with
  | some c => .both (32 * c.utf8Size)
  | none =>
    if s.isEmpty then .states 1 0
    else if s.isAscii then .both (32 * 2 + 8 * s.ranges.length)
    else
      let encodings := s.encodings
      let places := encodings.flatMap fun e => (List.range e.length).map fun i => (e, i)
      let tails := ((places.filter (0 < ·.2)).map fun (e, i) => e.drop i).eraseDups
      let heads := (places.map fun (e, i) => e.take (i + 1)).eraseDups
      ⟨32 * (2 + tails.length) + 8 * (encodings.length + tails.length),
        32 * (2 + heads.length) + 4 * encodings.length⟩

/-! ## Sizes of matchers -/

namespace Matcher

/-- Whether a matcher may match the empty text. -/
def mayBeEmpty : Matcher → Bool
  | empty | look _ | anyWord _ => true
  | oneOf _ => false
  | followedBy first second => first.mayBeEmpty && second.mayBeEmpty
  | either first second => first.mayBeEmpty || second.mayBeEmpty
  | repeated least _ inner => least == 0 || inner.mayBeEmpty
  | captured inner => inner.mayBeEmpty

/-- The sizes of the automata for a matcher. Each round of a repetition that has an end takes room
of its own. -/
def size : Matcher → Size
  | empty | look _ | anyWord _ => .states 1 0
  | oneOf s => s.size
  | followedBy first second => first.size.plus second.size
  | either first second@(either _ _) => (first.size.plus second.size).plus (.states 0 1)
  | either first second => (first.size.plus second.size).plus (.states 2 2)
  | captured inner => inner.size.plus ⟨64, 0⟩
  | repeated least most inner =>
    let round := inner.size
    match least, most with
    | 0, none => round.plus (if inner.mayBeEmpty then .states 3 4 else .states 1 2)
    | least, none => (round.copies least).plus (.states 1 2)
    | 0, some 1 => round.plus (.states 2 2)
    | least, some most =>
      if least = most then round.copies least
      else
        let start := if least = 0 then .states 1 0 else round.copies least
        let option := round.plus (.states 1 2)
        (start.plus (.states 1 0)).plus (option.copies (most - least))

/-- Whether a matcher takes more room than there is. -/
def isTooLarge (m : Matcher) : Bool :=
  Size.limit < max m.size.forward m.size.backward

end Matcher

end BitmapFont.Pattern
