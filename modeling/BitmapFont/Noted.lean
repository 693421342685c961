import BitmapFont.Diagnostic

/-!
# Computations that make remarks

A `Noted` computation makes diagnostics as it goes and may give up with an error. The diagnostics
made before an error are kept.

## Main definitions

- `Noted.note` — makes one diagnostic
- `Noted.fail` — gives up
-/

namespace BitmapFont

/-- The diagnostics made by a computation, and its value or the error with which it gave up. -/
structure Noted (ε α : Type) where
  notes : List Diagnostic
  result : Except ε α

namespace Noted

variable {ε α β : Type}

/-- A value without a remark. -/
def pure (a : α) : Noted ε α := ⟨[], .ok a⟩

/-- One computation after another, unless the first gives up. -/
def bind (x : Noted ε α) (next : α → Noted ε β) : Noted ε β :=
  match x.result with
  | .ok a => ⟨x.notes ++ (next a).notes, (next a).result⟩
  | .error e => ⟨x.notes, .error e⟩

instance : Monad (Noted ε) where
  pure := pure
  bind := bind

/-- Makes one remark. -/
def note (d : Diagnostic) : Noted ε Unit := ⟨[d], .ok ()⟩

/-- Gives up. -/
def fail (e : ε) : Noted ε α := ⟨[], .error e⟩

/-- Makes several remarks. -/
def noteAll (ds : List Diagnostic) : Noted ε Unit := ⟨ds, .ok ()⟩

/-- The outcome of a computation that makes no remark. -/
def ofExcept (result : Except ε α) : Noted ε α := ⟨[], result⟩

/-- The same computation with another kind of error. -/
def mapError {δ : Type} (f : ε → δ) (x : Noted ε α) : Noted δ α :=
  ⟨x.notes, x.result.mapError f⟩

theorem pure_eq (a : α) : (Pure.pure a : Noted ε α) = ⟨[], .ok a⟩ := rfl

/-- After a value the remarks of the next computation follow. -/
theorem bind_eq_of_ok {x : Noted ε α} {a : α} (h : x.result = .ok a) (next : α → Noted ε β) :
    x >>= next = ⟨x.notes ++ (next a).notes, (next a).result⟩ := by
  change bind x next = _
  rw [bind, h]

/-- After an error nothing follows. -/
theorem bind_eq_of_error {x : Noted ε α} {e : ε} (h : x.result = .error e)
    (next : α → Noted ε β) : x >>= next = ⟨x.notes, .error e⟩ := by
  change bind x next = _
  rw [bind, h]

end Noted

end BitmapFont
