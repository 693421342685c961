import BitmapFont.FileSystem.Basic
import Mathlib.Data.List.Basic

/-!
# Entries of changed file systems

What is found in a file system after a file was put at a place, or after the place was cleared.

## Main definitions

- `FileSystem.MayHold` — a file can be put at a place
- `FileSystem.AgreeExcept` — two file systems differ at most at one place
-/

namespace BitmapFont.FileSystem

/-- Whether a place may hold a file: it is in a directory and is not one itself. -/
structure MayHold (fs : FileSystem) (place : Location) : Prop where
  noDirectory : fs.entry? place ≠ some .directory
  inside : fs.entry? place.dropLast = some .directory

/-- Whether two file systems have the same current directory, and the same entries everywhere but at
one place. -/
def AgreeExcept (place : Location) (fs fs' : FileSystem) : Prop :=
  fs'.current = fs.current ∧ ∀ other, other ≠ place → fs'.entry? other = fs.entry? other

variable {fs fs' : FileSystem} {place other : Location}

theorem ne_root_of_not_directory (h : fs.entry? place ≠ some .directory) : place ≠ [] := by
  rintro rfl
  exact h rfl

theorem entry?_eq_lookup (fs : FileSystem) (h : place ≠ []) :
    fs.entry? place = fs.entries.lookup place :=
  if_neg h

/-- A place where something is found is the root or the place of an entry. -/
theorem mem_entries_of_isSome (below : place ≠ []) (h : (fs.entry? place).isSome) :
    place ∈ fs.entries.map (·.1) := by
  rw [entry?_eq_lookup fs below, List.lookup_isSome_iff] at h
  obtain ⟨entry, hentry, same⟩ := h
  exact List.mem_map.2 ⟨entry, hentry, (beq_iff_eq.1 same).symm⟩

/-- Everything that is found in a file system is in a directory. -/
theorem entry?_dropLast_of_isSome (h : (fs.entry? place).isSome) :
    fs.entry? place.dropLast = some .directory := by
  by_cases root : place = []
  · rw [root]
    rfl
  · obtain ⟨e, he, rfl⟩ := List.mem_map.1 (mem_entries_of_isSome root h)
    exact fs.isTree.inside e he

theorem mayHold_of_file {content : List UInt8} (h : fs.entry? place = some (.file content)) :
    fs.MayHold place where
  noDirectory := by
    rw [h]
    exact nofun
  inside := entry?_dropLast_of_isSome (by rw [h]; rfl)

/-- A directory may hold a file under every name that is not taken by a directory. -/
theorem mayHold_of_directory {directory : Location} {name : String}
    (found : fs.entry? directory = some .directory)
    (h : fs.entry? (directory ++ [name]) ≠ some .directory) : fs.MayHold (directory ++ [name]) where
  noDirectory := h
  inside := by rw [List.dropLast_concat, found]

@[simp] theorem add_current (fs : FileSystem) (place : Location) (entry : Entry) :
    (fs.add place entry).current = fs.current := by
  unfold add
  split <;> rfl

@[simp] theorem remove_current (fs : FileSystem) (place : Location) :
    (fs.remove place).current = fs.current := by
  unfold remove
  split <;> rfl

@[simp] theorem put_current (fs : FileSystem) (place : Location) (content : List UInt8) :
    (fs.put place content).current = fs.current := by
  rw [put, add_current, remove_current]

theorem entries_remove (h : fs.entry? place ≠ some .directory) :
    (fs.remove place).entries = fs.entries.filter (·.1 != place) := by
  rw [remove, dif_neg h]

theorem entries_add (free : fs.entry? place = none)
    (inside : fs.entry? place.dropLast = some .directory) (entry : Entry) :
    (fs.add place entry).entries = fs.entries ++ [(place, entry)] := by
  rw [add, dif_pos ⟨free, inside⟩]

theorem entry?_remove (h : fs.entry? place ≠ some .directory) (other : Location) :
    entry? (fs.remove place) other = if other = place then none else fs.entry? other := by
  unfold entry?
  rw [entries_remove h]
  split
  case isTrue same =>
    rw [same, findEntry, if_neg (ne_root_of_not_directory h), List.lookup_eq_none_iff]
    intro e he
    exact bne_iff_ne.2 (Ne.symm (bne_iff_ne.1 (List.mem_filter.1 he).2))
  case isFalse different => exact findEntry_filter different

theorem entry?_add (free : fs.entry? place = none)
    (inside : fs.entry? place.dropLast = some .directory) (entry : Entry) (other : Location) :
    entry? (fs.add place entry) other = if other = place then some entry else fs.entry? other := by
  unfold entry?
  rw [entries_add free inside]
  cases found : findEntry fs.entries other with
  | some old =>
    have different : other ≠ place := by
      rintro rfl
      exact nomatch free.symm.trans found
    rw [if_neg different]
    exact findEntry_append found _
  | none =>
    have below : other ≠ [] := by
      rintro rfl
      exact nomatch found
    have old : fs.entries.lookup other = none := (entry?_eq_lookup fs below).symm.trans found
    rw [findEntry, if_neg below, List.lookup_append, old, Option.none_or, List.lookup_cons,
      List.lookup_nil]
    by_cases same : other = place
    · simp [same]
    · have different : (other == place) = false := beq_eq_false_iff_ne.2 same
      simp [different, same]

/-- Where a file may be put, it may be once the place has been cleared. -/
theorem MayHold.remove (h : fs.MayHold place) :
    entry? (fs.remove place) place = none ∧
      entry? (fs.remove place) place.dropLast = some .directory := by
  refine ⟨by rw [entry?_remove h.noDirectory, if_pos rfl], ?_⟩
  have different : place.dropLast ≠ place := fun same => h.noDirectory (same ▸ h.inside)
  rw [entry?_remove h.noDirectory, if_neg different, h.inside]

/-- A file that was put at a place is found there, and nothing else has changed. -/
theorem entry?_put (h : fs.MayHold place) (content : List UInt8) (other : Location) :
    entry? (fs.put place content) other =
      if other = place then some (.file content) else fs.entry? other := by
  obtain ⟨free, inside⟩ := h.remove
  rw [put, entry?_add free inside, entry?_remove h.noDirectory]
  split
  · rfl
  · rfl

theorem entry?_put_self (h : fs.MayHold place) (content : List UInt8) :
    entry? (fs.put place content) place = some (.file content) := by
  rw [entry?_put h, if_pos rfl]

theorem entries_put (h : fs.MayHold place) (content : List UInt8) :
    (fs.put place content).entries =
      fs.entries.filter (·.1 != place) ++ [(place, .file content)] := by
  obtain ⟨free, inside⟩ := h.remove
  rw [put, entries_add free inside, entries_remove h.noDirectory]

theorem agreeExcept_put (h : fs.MayHold place) (content : List UInt8) :
    AgreeExcept place fs (fs.put place content) := by
  refine ⟨put_current fs place content, fun other different => ?_⟩
  rw [entry?_put h, if_neg different]

/-- A place may hold a file whatever file it holds. -/
theorem MayHold.put (h : fs.MayHold place) (content : List UInt8) :
    (fs.put place content).MayHold place :=
  mayHold_of_file (entry?_put_self h content)

theorem AgreeExcept.put {target : Location} (h : AgreeExcept place fs fs')
    (before : fs.MayHold target) (after : fs'.MayHold target) (content : List UInt8) :
    AgreeExcept place (fs.put target content) (fs'.put target content) := by
  refine ⟨by rw [put_current, put_current, h.1], fun other different => ?_⟩
  rw [entry?_put before, entry?_put after, h.2 other different]

/-- A file that is put where one was put takes its place. -/
theorem put_put (h : fs.MayHold place) (first second : List UInt8) :
    (fs.put place first).put place second = fs.put place second := by
  ext1
  · rw [entries_put (h.put first), entries_put h, entries_put h, List.filter_append,
      List.filter_filter]
    simp
  · simp

/-- A file that was put where nothing was found can be removed without a trace. -/
theorem remove_put_of_free (free : fs.entry? place = none)
    (inside : fs.entry? place.dropLast = some .directory) (content : List UInt8) :
    (fs.put place content).remove place = fs := by
  have h : fs.MayHold place := ⟨by rw [free]; exact nofun, inside⟩
  have others : fs.entries.filter (·.1 != place) = fs.entries := by
    rw [List.filter_eq_self]
    intro e he
    refine bne_iff_ne.2 fun same => not_mem_of_findEntry free ?_
    exact List.mem_map.2 ⟨e, he, same⟩
  ext1
  · rw [entries_remove (h.put content).noDirectory, entries_put h, List.filter_append,
      List.filter_filter]
    simp [others]
  · simp

end BitmapFont.FileSystem
