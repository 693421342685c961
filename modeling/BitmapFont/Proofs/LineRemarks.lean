import BitmapFont.Diagnostic
import BitmapFont.Proofs.Text.Cutting

/-!
# Remarks on lines

The lines of a text are gone through one by one, and each gets a verdict, which may call for a
remark. The remarks then come in the order of the lines, with their numbers.

## Main definitions

- `remarksOn` — the remarks that verdicts on numbered lines call for
- `Diagnostic.Precedes` — a remark is about an earlier line than another
-/

namespace BitmapFont

/-- The remarks that verdicts on numbered lines call for. Lines beyond the last verdict get none. -/
def remarksOn {α : Type} (remark? : α → Nat × List Char → Option Diagnostic)
    (lines : List (Nat × List Char)) (verdicts : List α) : List Diagnostic :=
  (lines.zip verdicts).filterMap fun judged => remark? judged.2 judged.1

/-- Whether a remark is about an earlier line than another. -/
def Diagnostic.Precedes (d e : Diagnostic) : Prop :=
  ∃ m n, d.line = some m ∧ e.line = some n ∧ m < n

theorem Text.pairwise_numbered {α : Type} (items : List α) :
    (numbered items).Pairwise fun a b => a.1 < b.1 := by
  rw [numbered, List.pairwise_map, List.pairwise_iff_getElem]
  intro i j hi hj before
  simpa using before

variable {α : Type} {remark? : α → Nat × List Char → Option Diagnostic}

@[simp] theorem remarksOn_nil (lines : List (Nat × List Char)) :
    remarksOn remark? lines [] = [] := by
  rw [remarksOn, List.zip_nil_right, List.filterMap_nil]

theorem remarksOn_cons (line : Nat × List Char) (lines : List (Nat × List Char)) (verdict : α)
    (verdicts : List α) :
    remarksOn remark? (line :: lines) (verdict :: verdicts) =
      (remark? verdict line).toList ++ remarksOn remark? lines verdicts := by
  rw [remarksOn, List.zip_cons_cons, List.filterMap_cons]
  cases remark? verdict line with
  | none => rfl
  | some d => rfl

/-- Remarks that carry the numbers of their lines come in the order of these. -/
theorem pairwise_remarksOn
    (about : ∀ verdict line d, remark? verdict line = some d → d.line = some line.1)
    {lines : List (Nat × List Char)} (ascending : lines.Pairwise fun a b => a.1 < b.1)
    (verdicts : List α) : (remarksOn remark? lines verdicts).Pairwise Diagnostic.Precedes := by
  induction lines generalizing verdicts with
  | nil => exact List.Pairwise.nil
  | cons line lines ih =>
    cases verdicts with
    | nil => simp
    | cons verdict verdicts =>
      obtain ⟨first, others⟩ := List.pairwise_cons.1 ascending
      rw [remarksOn_cons, List.pairwise_append]
      refine ⟨Option.pairwise_toList, ih others verdicts, ?_⟩
      intro d hd e he
      obtain ⟨⟨later, verdict'⟩, judged, said⟩ := List.mem_filterMap.1 he
      have before := first later (List.of_mem_zip judged).1
      exact ⟨_, _, about _ _ d (Option.mem_toList.1 hd), about _ _ e said, before⟩

end BitmapFont
