import BitmapFont.FileSystem.Replacement
import BitmapFont.Proofs.FileSystem.Entries
import Mathlib.Data.List.Nodup
import Mathlib.Data.List.Perm.Subperm

/-!
# Names that are not taken

A temporary file is given a name that is not taken in its directory. If the names that are tried are
more than the entries of a file system and all different, one of them is not taken.

## Main definitions

- `FileSystem.Naming.FindsName` — a name for a temporary file is found in a directory
-/

namespace BitmapFont

theorem Text.paddedDigits_injective (width : Nat) :
    Function.Injective (Text.paddedDigits 10 width) := by
  have value (n : Nat) : Nat.ofDigitChars 10 (Text.paddedDigits 10 width n).toList 0 = n := by
    rw [Text.paddedDigits, String.toList_ofList, Nat.ofDigitChars_append,
      Nat.ofDigitChars_replicate_zero, Nat.mul_zero, Nat.ofDigitChars_ten_toDigits]
  intro m n same
  rw [← value m, ← value n, same]

namespace FileSystem

namespace Naming

variable {naming : Naming} {fs : FileSystem} {directory : Location} {name : String}

/-- Whether a name for a new file is found in a directory. -/
def FindsName (naming : Naming) (fs : FileSystem) (directory : Path) : Prop :=
  ∀ place, fs.findDirectory directory = .ok place → ∃ name, naming.freeName? fs place = some name

theorem freeNameFrom?_cases {tries n : Nat}
    (h : naming.freeNameFrom? fs directory tries n = some name) :
    ∃ m, name = naming.name m ∧ fs.entry? (directory ++ [name]) = none := by
  induction tries generalizing n with
  | zero => exact nomatch h
  | succ tries ih =>
    unfold freeNameFrom? at h
    split at h
    case isTrue free =>
      obtain rfl := Option.some.inj h
      exact ⟨n, rfl, Option.isNone_iff_eq_none.1 free⟩
    case isFalse => exact ih h

/-- A name that is found is not taken. -/
theorem free_of_freeName? (h : naming.freeName? fs directory = some name) :
    fs.entry? (directory ++ [name]) = none := by
  obtain ⟨_, _, free⟩ := freeNameFrom?_cases h
  exact free

theorem isTemporaryName_of_freeName? (h : naming.freeName? fs directory = some name) :
    IsTemporaryName name := by
  obtain ⟨m, rfl, _⟩ := freeNameFrom?_cases h
  exact naming.isTemporary m

theorem freeNameFrom?_congr {fs' : FileSystem}
    (same : ∀ place, (fs'.entry? place).isSome = (fs.entry? place).isSome) (tries n : Nat) :
    naming.freeNameFrom? fs' directory tries n = naming.freeNameFrom? fs directory tries n := by
  induction tries generalizing n with
  | zero => rfl
  | succ tries ih =>
    rw [freeNameFrom?, freeNameFrom?, ih, ← Option.not_isSome, same, Option.not_isSome]

theorem taken_of_freeNameFrom? {tries n : Nat}
    (h : naming.freeNameFrom? fs directory tries n = none) :
    ∀ m < tries, (fs.entry? (directory ++ [naming.name (n + m)])).isSome := by
  induction tries generalizing n with
  | zero => exact fun m hm => absurd hm (Nat.not_lt_zero m)
  | succ tries ih =>
    unfold freeNameFrom? at h
    split at h
    case isTrue => exact nomatch h
    case isFalse taken =>
      intro m hm
      cases m with
      | zero => exact Option.isSome_iff_ne_none.2 (mt Option.isNone_iff_eq_none.2 taken)
      | succ m =>
        have later := ih h m (Nat.lt_of_succ_lt_succ hm)
        rwa [Nat.add_right_comm] at later

/-- If the names that are tried are different and more than the entries, one is not taken. -/
theorem findsName_of_length_lt
    (distinct : ∀ m < naming.tries, ∀ n < naming.tries, naming.name m = naming.name n → m = n)
    (few : fs.entries.length < naming.tries) (directory : Path) :
    naming.FindsName fs directory := by
  intro place _
  by_contra none
  have all := taken_of_freeNameFrom? (Option.eq_none_iff_forall_ne_some.2 (not_exists.1 none))
  -- The taken places would be distinct members of the list of entries, which is too short.
  let taken := (List.range naming.tries).map fun n => place ++ [naming.name n]
  have nodup : taken.Nodup := by
    refine List.Nodup.map_on (fun m hm n hn same => ?_) List.nodup_range
    exact distinct m (List.mem_range.1 hm) n (List.mem_range.1 hn)
      (List.cons.inj (List.append_cancel_left same)).1
  have within : taken ⊆ fs.entries.map (·.1) := by
    intro other hother
    obtain ⟨n, hn, rfl⟩ := List.mem_map.1 hother
    have isSome := all n (List.mem_range.1 hn)
    rw [Nat.zero_add] at isSome
    exact mem_entries_of_isSome (by simp) isSome
  have long := (nodup.subperm within).length_le
  simp only [taken, List.length_map, List.length_range] at long
  omega

end Naming

theorem temporaryName_inj {m n : Nat} (hm : m < 1000000) (hn : n < 1000000)
    (same : temporaryName m = temporaryName n) : m = n := by
  have digits := congrArg String.toList same
  rw [temporaryName, temporaryName, String.toList_append, String.toList_append,
    Nat.mod_eq_of_lt hm, Nat.mod_eq_of_lt hn] at digits
  exact Text.paddedDigits_injective 6 (String.toList_injective (List.append_cancel_left digits))

/-- A name is found in a file system with less than a million entries. -/
theorem findsName_firstFreeName {fs : FileSystem} (few : fs.entries.length < 1000000)
    (directory : Path) : firstFreeName.FindsName fs directory :=
  Naming.findsName_of_length_lt (fun _ hm _ hn => temporaryName_inj hm hn) few directory

end FileSystem

end BitmapFont
