import BitmapFont.Pattern.Meaning
import BitmapFont.Pattern.Parser
import BitmapFont.Pattern.Size

/-!
# Patterns

A pattern describes texts. It is written as a regular expression and occurs in every text of which
some part is as described.

## Main definitions

- `Pattern.parse` — the pattern that a text describes
- `Pattern.occursIn` — whether a pattern occurs in a text
- `PatternError.message` — why a text describes no pattern
-/

namespace BitmapFont

open Pattern in
/-- A description of texts. -/
structure Pattern where
  matcher : Matcher

open Pattern in
/-- The reasons why a text describes no pattern. -/
inductive PatternError
  | malformed (m : Malformed)
  /-- The pattern asks for words of letters of all scripts, which would need a table of them. -/
  | wordsUnavailable
  | tooLarge

/-- The words for an error in a text. -/
def PatternError.message (e : PatternError) (source : String) : String :=
  match e with
  | malformed m => m.report source
  | wordsUnavailable => "error building NFA"
  | tooLarge => s!"Compiled regex exceeds size limit of {Pattern.Size.limit} bytes."

namespace Pattern

/-- The pattern that a text describes. -/
def parse (source : String) : Except PatternError Pattern :=
  match Expression.parse source >>= Expression.meaning .initial with
  | .error m => .error (.malformed m)
  | .ok (matcher, _) =>
    if matcher.usesAnyWord then .error .wordsUnavailable
    else if matcher.isTooLarge then .error .tooLarge
    else .ok ⟨matcher⟩

/-- Whether a pattern occurs in a text. -/
def occursIn (p : Pattern) (text : String) : Bool :=
  p.matcher.occursIn text.toList

end Pattern

end BitmapFont
