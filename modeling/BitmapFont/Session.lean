import BitmapFont.Diagnostic
import BitmapFont.IndexSet

/-!
# Sessions

What several compilations may share: the diagnostics made so far and the glyph indices in use.
-/

namespace BitmapFont

/-- The diagnostics and the glyph indices of the compilations so far. -/
structure Session where
  diagnostics : Diagnostics
  used : IndexSet

/-- The session before the first compilation. -/
def Session.empty : Session := ⟨.empty, .empty⟩

end BitmapFont
