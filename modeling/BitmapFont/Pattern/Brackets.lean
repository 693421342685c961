import BitmapFont.Pattern.Escape

/-!
# Sets in brackets

A set of characters is written in brackets by its members: characters, ranges, escapes and other
sets. Two sets can be joined by an operation.
-/

namespace BitmapFont.Pattern

namespace Reading

/-- The named sets of `ASCII` characters, as ranges of code points. -/
def asciiClasses : List (List Char × List (Nat × Nat)) := [
  ("alnum".toList, [(0x30, 0x39), (0x41, 0x5A), (0x61, 0x7A)]),
  ("alpha".toList, [(0x41, 0x5A), (0x61, 0x7A)]),
  ("ascii".toList, [(0x00, 0x7F)]),
  ("blank".toList, [(0x09, 0x09), (0x20, 0x20)]),
  ("cntrl".toList, [(0x00, 0x1F), (0x7F, 0x7F)]),
  ("digit".toList, [(0x30, 0x39)]),
  ("graph".toList, [(0x21, 0x7E)]),
  ("lower".toList, [(0x61, 0x7A)]),
  ("print".toList, [(0x20, 0x7E)]),
  ("punct".toList, [(0x21, 0x2F), (0x3A, 0x40), (0x5B, 0x60), (0x7B, 0x7E)]),
  ("space".toList, [(0x09, 0x0D), (0x20, 0x20)]),
  ("upper".toList, [(0x41, 0x5A)]),
  ("word".toList, [(0x30, 0x39), (0x41, 0x5A), (0x5F, 0x5F), (0x61, 0x7A)]),
  ("xdigit".toList, [(0x30, 0x39), (0x41, 0x46), (0x61, 0x66)])]

/-- The members of a set so far. -/
structure Members where
  span : Span
  items : List ClassExpression

namespace Members

/-- No members yet. -/
def empty (p : Position) : Members := ⟨.empty p, []⟩

/-- The members with one more. -/
def push (m : Members) (item : ClassExpression) : Members :=
  ⟨⟨if m.items.isEmpty then item.span.start else m.span.start, item.span.stop⟩, m.items ++ [item]⟩

/-- The set of the members. -/
def expression (m : Members) : ClassExpression :=
  match m.items with
  | [] => .nothing m.span
  | [item] => item
  | items => .union m.span items

end Members

/-- The set before an operation, and the operation. -/
abbrev LeftSide := Option (ClassExpression × SetOperation)

/-- The set on the left side joined with the one on the right. -/
def LeftSide.join (left : LeftSide) (right : ClassExpression) : ClassExpression :=
  match left with
  | none => right
  | some (set, operation) => .combined ⟨set.span.start, right.span.stop⟩ operation set right

/-- The characters that mean an operation where they are doubled. -/
def operations : List (Char × SetOperation) :=
  [('&', .intersection), ('-', .difference), ('~', .symmetricDifference)]

/-- The beginning of a set: its place up to here, whether it is negated, and its first members. -/
structure Opening where
  span : Span
  negated : Bool
  members : Members

/-- Reads the hyphens at the beginning of a set, which stand for themselves. -/
def readHyphens (start : Position) : Nat → Members → Reading Members
  | 0, members => return members
  | n + 1, members => do
    if (← peek) = some '-' then
      let item := ClassExpression.literal ⟨← nextSpan, '-', false⟩
      skipOn
      if (← peek).isNone then fail .classUnclosed (.empty start)
      readHyphens start n (members.push item)
    else
      return members

/-- Reads the beginning of a set. Hyphens there, or else a closing bracket, stand for
themselves. -/
def readOpening : Reading Opening := do
  let start ← position
  skipOn
  if (← peek).isNone then fail .classUnclosed (← spanFrom start)
  let negated := (← peek) = some '^'
  if negated then
    skipOn
    if (← peek).isNone then fail .classUnclosed (← spanFrom start)
  let hyphens ← readHyphens start (← get).rest.length (.empty (← position))
  let members ←
    if hyphens.items.isEmpty ∧ (← peek) = some ']' then
      let item := ClassExpression.literal ⟨← nextSpan, ']', false⟩
      skipOn
      if (← peek).isNone then fail .classUnclosed (← spanFrom start)
      pure (hyphens.push item)
    else
      pure hyphens
  return ⟨← spanFrom start, negated, members⟩

/-- Reads a named set of `ASCII` characters such as `[:alpha:]`, if one comes next. -/
def readNamed? : Reading (Option ClassExpression) := do
  let outside ← get
  let start ← position
  if ← skipText "[:".toList then
    let negated ← skipText "^".toList
    let name := (← get).rest.takeWhile (· ≠ ':')
    modify (·.advance name.length)
    if ← skipText ":]".toList then
      if let some ranges := asciiClasses.lookup name then
        return some (.named (← spanFrom start) ranges negated)
  set outside
  return none

/-- Reads a member that is one character or an escape. -/
def readMember : Reading Escape := do
  match ← peek with
  | some '\\' => readEscape
  | some c =>
    let span ← nextSpan
    skip
    return .literal ⟨span, c, false⟩
  | none => failHere .classUnclosed

/-- A member of a set as a description. Places in a text are no members. -/
def memberClass : Escape → Reading ClassExpression
  | .literal l => return .literal l
  | .letters c => return .letters c
  | .property c => return .property c
  | .assertion span _ => fail .classEscape span

/-- A member that bounds a range. -/
def boundLiteral : Escape → Reading Literal
  | .literal l => return l
  | other => fail .classRangeBound other.span

/-- Reads a member of a set, or a range between two. A hyphen before a closing bracket or before
another hyphen does not make a range. -/
def readRange (opening : Span) : Reading ClassExpression := do
  let first ← readMember
  skipBlanks
  if (← peek).isNone then fail .classUnclosed opening
  let following := (← get).second?
  if (← peek) ≠ some '-' ∨ following = some ']' ∨ following = some '-' then
    memberClass first
  else
    skipOn
    if (← peek).isNone then fail .classUnclosed opening
    let last ← readMember
    let span : Span := ⟨first.span.start, last.span.stop⟩
    let lower ← boundLiteral first
    let upper ← boundLiteral last
    if upper.char < lower.char then fail .classRangeOrder span
    return .range span lower upper

mutual

/-- Reads a set in brackets. -/
def readBrackets : Nat → Reading ClassExpression
  | 0 => failHere .exhausted
  | fuel + 1 => do
    let start ← position
    let opening ← readOpening
    let inner ← readMembers fuel opening.span none opening.members
    return .bracketed (← spanFrom start) opening.negated inner

/-- Reads the members of a set up to its closing bracket. -/
def readMembers : Nat → Span → LeftSide → Members → Reading ClassExpression
  | 0, _, _, _ => failHere .exhausted
  | fuel + 1, opening, left, members => do
    skipBlanks
    match ← peek with
    | none => fail .classUnclosed opening
    | some ']' =>
      skip
      return left.join members.expression
    | some '[' =>
      let item ← match ← readNamed? with
        | some item => pure item
        | none => readBrackets fuel
      readMembers fuel opening left (members.push item)
    | some c =>
      match operations.lookup c with
      | some operation =>
        if ← skipText [c, c] then
          let set := left.join members.expression
          readMembers fuel opening (some (set, operation)) (.empty (← position))
        else
          readMembers fuel opening left (members.push (← readRange opening))
      | none => readMembers fuel opening left (members.push (← readRange opening))

end

end Reading

end BitmapFont.Pattern
