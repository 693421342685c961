import BitmapFont.Proofs.Text.Ascii
import BitmapFont.Text.UpperCase
import Mathlib.Data.List.Basic

/-!
# The upper case of upper case

No character in the upper case of another has itself another upper case. So it does not matter
whether a text is mapped to upper case once or twice.

## Main definitions

- `Unmapped` — the code points of characters that are their own upper case
- `CaseRun.avoids` — a test for runs of which one maps to no code point of the other
-/

namespace BitmapFont.Text

namespace CaseRun

/-- Whether the images of a run lie before or behind another run, or between its code points. -/
def avoids (run other : CaseRun) : Bool :=
  Nat.blt other.last run.target || Nat.blt (run.target + (run.last - run.first)) other.first ||
    (Nat.beq other.step 2 && (Nat.beq run.step 2 || Nat.beq run.first run.last) &&
      Nat.beq ((run.target + other.first) % 2) 1)

theorem contains_iff {run : CaseRun} {n : Nat} :
    run.contains n = true ↔
      run.first ≤ n ∧ n ≤ run.last ∧ (n - run.first) % run.step = 0 := by
  simp [contains, and_assoc]

theorem apply_le {run : CaseRun} {n : Nat} (h : run.contains n = true) :
    run.apply n ≤ run.target + (run.last - run.first) := by
  obtain ⟨_, last, _⟩ := contains_iff.1 h
  exact Nat.add_le_add_left (Nat.sub_le_sub_right last run.first) run.target

theorem not_contains_of_avoids {run other : CaseRun} {n : Nat} (h : run.avoids other = true)
    (member : run.contains n = true) : ¬ other.contains (run.apply n) = true := by
  have least : run.target ≤ run.apply n := Nat.le_add_right _ _
  have greatest := apply_le member
  rw [contains_iff] at member ⊢
  simp only [avoids, Bool.or_eq_true, Bool.and_eq_true, Nat.blt_eq, Nat.beq_eq] at h
  obtain (before | behind) | ⟨⟨otherStep, step⟩, parity⟩ := h
  · omega
  · omega
  · -- All images of the run have the parity that the code points of the other have not.
    rw [otherStep]
    obtain step | single := step
    · rw [step] at member
      simp only [apply]
      omega
    · simp only [apply]
      omega

end CaseRun

/-- Whether a number is the code point of a character that is its own upper case. -/
structure Unmapped (n : Nat) : Prop where
  alone : ∀ entry ∈ caseExpansions, entry.1 ≠ n
  outside : ∀ run ∈ caseRuns, ¬ run.contains n = true

theorem lookup_eq_none_of_alone {n : Nat} (h : ∀ entry ∈ caseExpansions, entry.1 ≠ n) :
    caseExpansions.lookup n = none :=
  List.lookup_eq_none_iff.2 fun entry among => bne_iff_ne.2 (h entry among).symm

theorem Unmapped.upperCode_eq {n : Nat} (h : Unmapped n) : upperCode n = [n] := by
  have none : caseRuns.find? (·.contains n) = none := List.find?_eq_none.2 h.outside
  rw [upperCode, lookup_eq_none_of_alone h.alone, none]

/-- What a character maps to with others is mapped no further. -/
theorem unmapped_of_caseExpansions {entry : Nat × List Nat} (among : entry ∈ caseExpansions)
    {n : Nat} (h : n ∈ entry.2) : Unmapped n := by
  have alone : caseExpansions.all (fun entry => entry.2.all fun n =>
      caseExpansions.all fun other => !Nat.beq other.1 n) = true := by
    decide +kernel
  have outside : caseExpansions.all (fun entry => entry.2.all fun n =>
      caseRuns.all fun run => !run.contains n) = true := by
    decide +kernel
  simp only [List.all_eq_true, Bool.not_eq_true', Bool.eq_false_iff, ne_eq,
    Nat.beq_eq] at alone outside
  exact ⟨alone entry among n h, outside entry among n h⟩

/-- What a run maps to is mapped no further. -/
theorem unmapped_of_caseRuns {run : CaseRun} (among : run ∈ caseRuns) {n : Nat}
    (h : run.contains n = true) : Unmapped (run.apply n) := by
  have alone : caseRuns.all (fun run => caseExpansions.all fun entry =>
      Nat.blt entry.1 run.target || Nat.blt (run.target + (run.last - run.first)) entry.1) =
        true := by
    decide +kernel
  have outside : caseRuns.all (fun run => caseRuns.all run.avoids) = true := by
    decide +kernel
  simp only [List.all_eq_true, Bool.or_eq_true, Nat.blt_eq] at alone outside
  constructor
  · intro entry expands same
    have least : run.target ≤ run.apply n := Nat.le_add_right _ _
    have greatest := CaseRun.apply_le h
    have elsewhere := alone run among entry expands
    omega
  · intro other hother
    exact CaseRun.not_contains_of_avoids (outside run among other hother) h

/-- A code point is expanded, or moved by a run, or is its own upper case. -/
theorem upperCode_cases (n : Nat) :
    (∃ entry ∈ caseExpansions, upperCode n = entry.2) ∨
      (∃ run ∈ caseRuns, run.contains n = true ∧ upperCode n = [run.apply n]) ∨
        Unmapped n ∧ upperCode n = [n] := by
  cases expanded : caseExpansions.lookup n with
  | some codes =>
    obtain ⟨before, after, split, _⟩ := List.lookup_eq_some_iff.1 expanded
    have among : (n, codes) ∈ caseExpansions := by
      rw [split]
      exact List.mem_append_right _ List.mem_cons_self
    refine Or.inl ⟨_, among, ?_⟩
    rw [upperCode, expanded]
  | none =>
    cases found : caseRuns.find? (·.contains n) with
    | some run =>
      have member := List.find?_some found
      refine Or.inr (Or.inl ⟨run, List.mem_of_find?_eq_some found, member, ?_⟩)
      rw [upperCode, expanded, found]
    | none =>
      have unmapped : Unmapped n := by
        refine ⟨fun entry among same => ?_, List.find?_eq_none.1 found⟩
        have other := List.lookup_eq_none_iff.1 expanded entry among
        exact absurd same.symm (bne_iff_ne.1 other)
      exact Or.inr (Or.inr ⟨unmapped, unmapped.upperCode_eq⟩)

theorem unmapped_of_mem_upperCode {n m : Nat} (h : m ∈ upperCode n) : Unmapped m := by
  obtain ⟨entry, among, same⟩ | ⟨run, among, member, same⟩ | ⟨unmapped, same⟩ := upperCode_cases n
  · exact unmapped_of_caseExpansions among (same ▸ h)
  · obtain rfl := List.mem_singleton.1 (same ▸ h)
    exact unmapped_of_caseRuns among member
  · obtain rfl := List.mem_singleton.1 (same ▸ h)
    exact unmapped

/-- Each character of an upper case is its own upper case. -/
theorem upperChar_of_mem {c d : Char} (h : d ∈ upperChar c) : upperChar d = [d] := by
  obtain ⟨m, mapped, rfl⟩ := List.mem_map.1 h
  by_cases valid : m.isValidChar
  · rw [upperChar, toNat_ofNat_of_isValidChar valid,
      (unmapped_of_mem_upperCode mapped).upperCode_eq, List.map_singleton]
  · rw [ofNat_of_not_isValidChar valid]
    decide +kernel

/-- The upper case of a text is its own upper case. -/
theorem upperCase_upperCase (s : String) : upperCase (upperCase s) = upperCase s := by
  have again (c : Char) : (upperChar c).flatMap upperChar = upperChar c :=
    (List.flatMap_congr fun d hd => upperChar_of_mem hd).trans (List.flatMap_singleton' _)
  rw [upperCase, upperCase, String.toList_ofList, List.flatMap_assoc]
  simp only [again]

end BitmapFont.Text
