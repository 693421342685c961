import BitmapFont.Proofs.Text.UpperCase
import Mathlib.Data.List.Forall2
import Mathlib.Data.List.Infix

/-!
# Texts with a given upper case

A text whose upper case holds no expansion of a single character has as many characters as its upper
case, and each of them is mapped to the one in its place. The characters that are mapped to a given
one are read off the table of runs.

## Main definitions

- `CaseRun.source?` — the code point of a run that is mapped to a given one
- `sources` — the code points that runs map to a given one
- `NoExpansionIn` — the texts that hold no expansion of a single character
-/

namespace BitmapFont.Text

/-- The code point of a run that is mapped to `m`. -/
def CaseRun.source? (run : CaseRun) (m : Nat) : Option Nat :=
  let n := run.first + (m - run.target)
  if run.target ≤ m ∧ run.contains n then some n else none

/-- The code points that a run maps to `m`. -/
def sources (m : Nat) : List Nat :=
  caseRuns.filterMap (·.source? m)

theorem CaseRun.source?_apply {run : CaseRun} {n : Nat} (h : run.contains n = true) :
    run.source? (run.apply n) = some n := by
  obtain ⟨first, _, _⟩ := contains_iff.1 h
  have back : run.first + (run.apply n - run.target) = n := by
    simp only [apply]
    omega
  have behind : run.target ≤ run.apply n := Nat.le_add_right _ _
  unfold source?
  dsimp only
  rw [back, if_pos ⟨behind, h⟩]

/-- An expansion has more than one code point. -/
theorem length_of_caseExpansions {entry : Nat × List Nat} (among : entry ∈ caseExpansions) :
    entry.2.length ≠ 1 := by
  have several : caseExpansions.all (fun entry => !Nat.beq entry.2.length 1) = true := by
    decide +kernel
  simp only [List.all_eq_true, Bool.not_eq_true', Bool.eq_false_iff, ne_eq, Nat.beq_eq] at several
  exact several entry among

theorem eq_or_mem_sources_of_upperCode {n m : Nat} (h : upperCode n = [m]) :
    n = m ∨ n ∈ sources m := by
  obtain ⟨entry, among, same⟩ | ⟨run, among, member, same⟩ | ⟨_, same⟩ := upperCode_cases n
  · have length := congrArg List.length (same.symm.trans h)
    exact absurd length (length_of_caseExpansions among)
  · obtain rfl := List.singleton_inj.1 (same.symm.trans h)
    exact Or.inr (List.mem_filterMap.2 ⟨run, among, CaseRun.source?_apply member⟩)
  · exact Or.inl (List.singleton_inj.1 (same.symm.trans h))

/-- A character other than the zero character, which stands for numbers without a character, is the
upper case of itself and of its sources only. -/
theorem eq_or_mem_sources_of_upperChar {c d : Char} (nonzero : d ≠ '\x00')
    (h : upperChar c = [d]) : c = d ∨ c.toNat ∈ sources d.toNat := by
  obtain ⟨m, mapped, character⟩ := List.map_eq_singleton_iff.1 h
  have valid : m.isValidChar := by
    by_contra invalid
    exact nonzero (character.symm.trans (ofNat_of_not_isValidChar invalid))
  have code : m = d.toNat := by
    rw [← character, toNat_ofNat_of_isValidChar valid]
  subst code
  obtain same | source := eq_or_mem_sources_of_upperCode mapped
  · exact Or.inl (Char.toNat_inj.1 same)
  · exact Or.inr source

/-- The characters whose upper case is a given one are listed if none of them has another. -/
theorem upperChar_eq_singleton_iff {d : Char} {letters : List Char} (nonzero : d ≠ '\x00')
    (all : d :: (sources d.toNat).map Char.ofNat = letters)
    (mapped : letters.all (upperChar · == [d]) = true) (c : Char) :
    upperChar c = [d] ↔ c ∈ letters := by
  constructor
  · intro single
    rw [← all, List.mem_cons, List.mem_map]
    refine (eq_or_mem_sources_of_upperChar nonzero single).imp_right fun source => ?_
    exact ⟨c.toNat, source, Char.ofNat_toNat c⟩
  · intro among
    exact beq_iff_eq.1 (List.all_eq_true.1 mapped c among)

/-! ### Texts without expansions -/

/-- Whether no part of a text is what a single character is expanded to. -/
def NoExpansionIn (t : List Char) : Prop :=
  ∀ entry ∈ caseExpansions, ¬ entry.2.map Char.ofNat <:+: t

instance (t : List Char) : Decidable (NoExpansionIn t) :=
  List.decidableBAll _ caseExpansions

theorem NoExpansionIn.of_infix {part t : List Char} (h : NoExpansionIn t) (inside : part <:+: t) :
    NoExpansionIn part :=
  fun entry among expansion => h entry among (expansion.trans inside)

/-- A character whose upper case is found in such a text is not expanded. -/
theorem NoExpansionIn.exists_upperChar_eq {c : Char} (h : NoExpansionIn (upperChar c)) :
    ∃ d, upperChar c = [d] := by
  obtain ⟨entry, among, same⟩ | ⟨run, _, _, same⟩ | ⟨_, same⟩ := upperCode_cases c.toNat
  · rw [upperChar, same] at h
    exact absurd List.infix_rfl (h entry among)
  · exact ⟨_, by rw [upperChar, same, List.map_singleton]⟩
  · exact ⟨_, by rw [upperChar, same, List.map_singleton]⟩

/-- Such a text is the upper case of another character by character. -/
theorem NoExpansionIn.flatMap_upperChar_eq_iff {s t : List Char} (h : NoExpansionIn t) :
    s.flatMap upperChar = t ↔ List.Forall₂ (fun c d => upperChar c = [d]) s t := by
  constructor
  · intro mapped
    induction s generalizing t with
    | nil =>
      rw [← mapped, List.flatMap_nil]
      exact .nil
    | cons c rest ih =>
      rw [List.flatMap_cons] at mapped
      have first : upperChar c <:+: t := ⟨[], rest.flatMap upperChar, mapped⟩
      obtain ⟨d, single⟩ := (h.of_infix first).exists_upperChar_eq
      rw [single, List.singleton_append] at mapped
      subst mapped
      exact .cons single (ih (h.of_infix (List.suffix_cons d _).isInfix) rfl)
  · intro pairs
    induction pairs with
    | nil => rfl
    | cons single _ ih =>
      rw [List.flatMap_cons, single, List.singleton_append,
        ih (h.of_infix (List.suffix_cons _ _).isInfix)]

theorem upperCase_eq_iff {s t : String} (h : NoExpansionIn t.toList) :
    upperCase s = t ↔ List.Forall₂ (fun c d => upperChar c = [d]) s.toList t.toList := by
  rw [← h.flatMap_upperChar_eq_iff, upperCase, ← String.toList_inj, String.toList_ofList]

end BitmapFont.Text
