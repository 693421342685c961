import BitmapFont.Proofs.FileSystem.Replacement

/-!
# File systems with the same tree

Two file systems with the same directories, and with files at the same places, are walked in the
same way, and a file is replaced in both with the same outcome. What the files hold does not matter.

## Main definitions

- `FileSystem.SameTree` — whether two file systems have directories and files at the same places
- `FileSystem.SameChange` — whether the same file was put into two file systems, or none
-/

namespace BitmapFont.FileSystem

/-- Whether two file systems have the same current directory, and directories and files at the same
places. -/
structure SameTree (fs fs' : FileSystem) : Prop where
  current : fs'.current = fs.current
  directory_iff : ∀ place, fs'.entry? place = some .directory ↔ fs.entry? place = some .directory
  isSome_eq : ∀ place, (fs'.entry? place).isSome = (fs.entry? place).isSome

/-- Two file systems into which the same file was put at the same place, or none. -/
inductive SameChange (fs fs' : FileSystem) : FileSystem → FileSystem → Prop
  | none : SameChange fs fs' fs fs'
  | put {place : Location} (h : fs.MayHold place) (content : List UInt8) :
    SameChange fs fs' (fs.put place content) (fs'.put place content)

variable {fs fs' : FileSystem} {p : Path} {place : Location} {content : List UInt8}

/-- A file can be given other content. -/
theorem sameTree_put (file : fs.entry? place = some (.file content)) (new : List UInt8) :
    SameTree fs (fs.put place new) := by
  have mayHold := mayHold_of_file file
  refine ⟨put_current fs place new, fun other => ?_, fun other => ?_⟩
  · exact ⟨keepsDirectories_of_put mayHold new other, keepsDirectories_put mayHold new other⟩
  · rw [entry?_put mayHold]
    split
    case isTrue same =>
      rw [same, file]
      rfl
    case isFalse => rfl

theorem requireDirectory_eq_ite (fs : FileSystem) (place : Location) :
    fs.requireDirectory place =
      if fs.entry? place = some .directory then .ok ()
      else if (fs.entry? place).isSome then .error .notDirectory
      else .error .notFound := by
  unfold requireDirectory
  split
  case h_1 directory => simp [directory]
  case h_2 file => simp [file]
  case h_3 none => simp [none]

namespace SameTree

variable (same : SameTree fs fs')
include same

theorem requireDirectory_eq : fs'.requireDirectory = fs.requireDirectory := by
  funext place
  simp only [requireDirectory_eq_ite, same.directory_iff, same.isSome_eq]

theorem exists_file (file : fs.entry? place = some (.file content)) :
    ∃ new, fs'.entry? place = some (.file new) := by
  have present : (fs'.entry? place).isSome := by
    rw [same.isSome_eq, file]
    rfl
  obtain ⟨entry, found⟩ := Option.isSome_iff_exists.1 present
  cases entry with
  | directory => exact nomatch file.symm.trans ((same.directory_iff place).1 found)
  | file new => exact ⟨new, found⟩

theorem step_eq : fs'.step = fs.step := by
  funext place segment
  simp only [step, same.requireDirectory_eq, same.isSome_eq]

theorem follow_eq : fs'.follow = fs.follow := by
  funext start segments
  rw [follow, follow, same.step_eq]

theorem walk_eq : fs'.walk = fs.walk := by
  funext p
  simp only [walk, same.follow_eq, origin, same.current]

theorem contains_eq : fs'.contains = fs.contains := by
  funext p
  rw [contains, contains, same.walk_eq]

theorem findDirectory_eq : fs'.findDirectory = fs.findDirectory := by
  funext p
  simp only [findDirectory, same.follow_eq, origin, same.current, same.requireDirectory_eq]

theorem renameTarget_eq : fs'.renameTarget = fs.renameTarget := by
  funext p
  simp only [renameTarget, same.follow_eq, origin, same.current, same.requireDirectory_eq,
    same.directory_iff]

theorem mayHold (h : fs.MayHold place) : fs'.MayHold place where
  noDirectory := mt (same.directory_iff place).1 h.noDirectory
  inside := (same.directory_iff place.dropLast).2 h.inside

theorem put (h : fs.MayHold place) (content : List UInt8) :
    SameTree (fs.put place content) (fs'.put place content) := by
  constructor
  case current => simp [same.current]
  all_goals
    intro other
    rw [entry?_put h, entry?_put (same.mayHold h)]
    split
  · rfl
  · exact same.directory_iff other
  · rfl
  · exact same.isSome_eq other

theorem freeName?_eq (naming : Naming) : naming.freeName? fs' = naming.freeName? fs := by
  funext directory
  exact Naming.freeNameFrom?_congr same.isSome_eq _ _

/-- The same temporary files are created. -/
theorem creates {naming : Naming} {temporary : Temporary} (h : fs.Creates naming p temporary) :
    fs'.Creates naming p temporary := by
  obtain ⟨checked, found, free⟩ := h
  rw [← same.current] at checked ⊢
  rw [← same.findDirectory_eq] at found
  rw [← same.freeName?_eq] at free
  exact .intro checked found free

/-- A temporary file is created in both, or in neither for the same reason. -/
theorem createTemporary_cases (naming : Naming) (directory : Path) (content : List UInt8) :
    (∃ e, fs.createTemporary naming directory content = .error e ∧
        fs'.createTemporary naming directory content = .error e) ∨
      ∃ temporary, fs.Creates naming directory temporary ∧
        fs.createTemporary naming directory content =
          .ok (temporary, fs.put temporary.place content) ∧
        fs'.createTemporary naming directory content =
          .ok (temporary, fs'.put temporary.place content) := by
  cases created : fs.createTemporary naming directory content with
  | error e =>
    refine Or.inl ⟨e, rfl, ?_⟩
    unfold createTemporary at created ⊢
    dsimp only at created ⊢
    rw [same.current, same.findDirectory_eq]
    split at created
    case h_1 => exact created
    case h_2 =>
      rw [same.freeName?_eq]
      split at created
      case h_1 => exact created
      case h_2 => exact nomatch created
  | ok made =>
    obtain ⟨temporary, files⟩ := made
    obtain ⟨creates, rfl⟩ := createTemporary_eq_ok_iff.1 created
    refine Or.inr ⟨temporary, creates, rfl, ?_⟩
    exact createTemporary_eq_ok_iff.2 ⟨same.creates creates, rfl⟩

/-- A file is replaced with the same outcome, with the same temporary file, and by the same change
of the files. -/
theorem replace_eq (naming : Naming) (target : Path) (content : List UInt8) :
    (fs'.replace naming target content).result = (fs.replace naming target content).result ∧
      (fs'.replace naming target content).temporary =
        (fs.replace naming target content).temporary ∧
      SameChange fs fs' (fs.replace naming target content).files
        (fs'.replace naming target content).files := by
  unfold replace
  dsimp only
  obtain ⟨e, failed, failed'⟩ | ⟨temporary, creates, created, created'⟩ :=
    same.createTemporary_cases naming (temporaryDirectory target) content
  · rw [failed, failed']
    exact ⟨rfl, rfl, .none⟩
  · have mayHold := creates.mayHold
    have mayHold' := same.mayHold mayHold
    have free' := (same.creates creates).free
    rw [created, created']
    dsimp only
    rw [rename_put mayHold, rename_put mayHold', (same.put mayHold content).renameTarget_eq,
      remove_put_of_free creates.free mayHold.inside, remove_put_of_free free' mayHold'.inside]
    cases target : (fs.put temporary.place content).renameTarget target with
    | error e => exact ⟨rfl, rfl, .put mayHold content⟩
    | ok place =>
      rw [renameTarget_put_of_free mayHold] at target
      exact ⟨rfl, rfl, .put (mayHold_of_renameTarget target) content⟩

/-- A change of both keeps them the same except at the one place. -/
theorem agreeExcept_of_sameChange {after after' : FileSystem}
    (change : SameChange fs fs' after after') (agree : AgreeExcept place fs fs') :
    AgreeExcept place after after' := by
  cases change with
  | none => exact agree
  | put h content => exact agree.put h (same.mayHold h) content

end SameTree

end BitmapFont.FileSystem
