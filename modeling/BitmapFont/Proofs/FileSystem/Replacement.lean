import BitmapFont.Proofs.FileSystem.FreshNames
import BitmapFont.Proofs.FileSystem.Walks

/-!
# What a replacement does

A replacement puts the new content at the place to which the path then leads, or it fails. A failure
changes nothing unless its error keeps a temporary file. Otherwise the temporary file never shows,
because its place was free before.

## Main definitions

- `FileSystem.Replaces` — a file system differs from another only in one file, to which a path leads
- `FileSystem.LeavesTemporary` — a file system differs from another only in a temporary file
- `FileSystem.Creates` — the temporary file that is created in a directory
- `FileSystem.Replaceable` — a file can be replaced
-/

namespace BitmapFont.FileSystem

/-- Whether the second file system differs from the first only in a file with a given content, at
the place to which a path leads. -/
structure Replaces (fs fs' : FileSystem) (target : Path) (content : List UInt8) (place : Location) :
    Prop where
  /-- No directory was found at the place before. -/
  before : fs.entry? place ≠ some .directory
  file : fs'.entry? place = some (.file content)
  agree : AgreeExcept place fs fs'
  walk : fs'.walk target = .ok place
  read : fs'.read target = .ok content
  /-- Every path that led elsewhere leads there still, and the same is read from it. -/
  elsewhere : ∀ (p : Path) (other : Location), fs.walk p = .ok other → other ≠ place →
    fs'.walk p = .ok other ∧ fs'.read p = fs.read p

/-- Whether the second file system differs from the first only in a temporary file with a given
content, in the directory where temporary files for a path are created. -/
structure LeavesTemporary (fs fs' : FileSystem) (target : Path) (content : List UInt8)
    (temporary : Temporary) : Prop where
  directory : ∃ directory name, fs.findDirectory (temporaryDirectory target) = .ok directory ∧
    IsTemporaryName name ∧ temporary.place = directory ++ [name]
  /-- Nothing was found at the place before. -/
  free : fs.entry? temporary.place = none
  file : fs'.entry? temporary.place = some (.file content)
  agree : AgreeExcept temporary.place fs fs'

/-- Whether a temporary file is created in a directory, and which one. Its content does not
matter. -/
inductive Creates (fs : FileSystem) (naming : Naming) (directory : Path) : Temporary → Prop
  | intro {place : Location} {name : String}
      (checked : checkPath (((absolutePath fs.current).join directory).join ⟨naming.name 0⟩) =
        .ok ())
      (found : fs.findDirectory directory = .ok place)
      (free : naming.freeName? fs place = some name) :
      Creates fs naming directory
        ⟨place ++ [name], ((absolutePath fs.current).join directory).join ⟨name⟩⟩

/-- Whether a file can be replaced, at the place that its path gives to a new name: there is a
temporary file for it. The new content does not matter. -/
structure Replaceable (fs : FileSystem) (naming : Naming) (target : Path) (place : Location) :
    Prop where
  temporary : ∃ temporary, fs.Creates naming (temporaryDirectory target) temporary
  target : fs.renameTarget target = .ok place

variable {fs fs' : FileSystem} {p : Path} {place : Location} {naming : Naming}

/-- A file that was put at the place to which a path then leads is all that has changed. -/
theorem replaces_put (before : fs.MayHold place) {content : List UInt8}
    (walk : (fs.put place content).walk p = .ok place) :
    Replaces fs (fs.put place content) p content place := by
  have file := entry?_put_self before content
  have agree := agreeExcept_put before content
  refine ⟨before.noDirectory, file, agree, walk, read_of_walk walk file,
    fun q other led different => ?_⟩
  have same := agree.2 other different
  have still : (fs.put place content).walk q = .ok other := by
    refine walk_of_keepsDirectories (keepsDirectories_put before content) agree.1 led ?_
    rw [same]
    exact id
  exact ⟨still, read_congr led still same⟩

/-- The place for a new name has a name in a directory and is not itself a directory. -/
theorem renameTarget_cases (h : fs.renameTarget p = .ok place) :
    ∃ before last directory, checkPath p = .ok () ∧
      Text.pieces '/' p.text.toList = before ++ [last] ∧
      fs.follow (fs.origin p) before = .ok directory ∧
      fs.entry? directory = some .directory ∧
      Path.isIdle last = false ∧ last ≠ ['.', '.'] ∧
      child directory last = .ok place ∧ fs.entry? place ≠ some .directory := by
  unfold renameTarget at h
  obtain ⟨_, h⟩ := ite_throw_eq_ok_iff.1 h
  obtain ⟨_, checked, h⟩ := bind_eq_ok_iff.1 h
  dsimp only at h
  split at h
  case h_1 => exact nomatch h
  case h_2 last before named =>
    simp only [bind_eq_ok_iff, ite_throw_eq_ok_iff, pure_eq_ok_iff] at h
    obtain ⟨directory, followed, _, found, noDots, _, hchild, noSlashes, noDirectory, rfl⟩ := h
    -- The path has no slashes at its end, so the name is its last segment.
    have whole := List.takeWhile_append_dropWhile (p := (· = []))
      (l := (Text.pieces '/' p.text.toList).reverse)
    rw [named, not_not.1 noSlashes, List.nil_append] at whole
    have segments : Text.pieces '/' p.text.toList = before.reverse ++ [last] := by
      rw [← List.reverse_cons, whole, List.reverse_reverse]
    have nonempty : last ≠ [] := by
      have head := List.head?_dropWhile_not (· = []) (Text.pieces '/' p.text.toList).reverse
      simpa [named] using head
    refine ⟨before.reverse, last, directory, checked, segments, followed,
      requireDirectory_eq_ok_iff.1 found, ?_, fun dots => noDots (Or.inr dots), hchild, noDirectory⟩
    have noDot : last ≠ ['.'] := fun dot => noDots (Or.inl dot)
    simp [Path.isIdle, nonempty, noDot]

theorem mayHold_of_renameTarget (h : fs.renameTarget p = .ok place) : fs.MayHold place := by
  obtain ⟨_, _, _, _, _, _, found, _, _, named, noDirectory⟩ := renameTarget_cases h
  exact ⟨noDirectory, by rw [dropLast_of_child named, found]⟩

/-- A path leads to the place that it gives to a new name, as soon as something is found there. -/
theorem walk_of_renameTarget (h : fs.renameTarget p = .ok place) (kept : KeepsDirectories fs fs')
    (current : fs'.current = fs.current) (present : (fs'.entry? place).isSome) :
    fs'.walk p = .ok place := by
  obtain ⟨before, last, directory, checked, segments, followed, found, notIdle, notUp, named, -⟩ :=
    renameTarget_cases h
  have followed' := follow_to_directory kept followed found
  have stepped : fs'.step directory last = .ok place := by
    refine bind_eq_ok_iff.2 ⟨(), requireDirectory_eq_ok_iff.2 (kept directory found), ?_⟩
    rw [if_neg (by simp [notIdle]), if_neg notUp]
    refine bind_eq_ok_iff.2 ⟨place, named, ?_⟩
    rw [if_pos present]
    rfl
  rw [walk_eq_ok_iff, origin_congr current, segments, follow, List.foldlM_append]
  refine ⟨checked, bind_eq_ok_iff.2 ⟨directory, followed', ?_⟩⟩
  exact follow_cons_eq_ok_iff.2 ⟨place, stepped, rfl⟩

theorem renameTarget_of_keepsDirectories (kept : KeepsDirectories fs fs')
    (current : fs'.current = fs.current) (h : fs.renameTarget p = .ok place)
    (noDirectory : fs'.entry? place ≠ some .directory) : fs'.renameTarget p = .ok place := by
  obtain ⟨before, last, directory, checked, segments, followed, found, notIdle, notUp, named, -⟩ :=
    renameTarget_cases h
  have followed' := follow_to_directory kept followed found
  have nonempty : last ≠ [] := by
    rintro rfl
    exact nomatch notIdle
  have notDot : last ≠ ['.'] := by
    rintro rfl
    exact nomatch notIdle
  have noSlashes : (Text.pieces '/' p.text.toList).reverse.takeWhile (· = []) = [] := by
    simp [segments, nonempty]
  have reversed : (Text.pieces '/' p.text.toList).reverse.dropWhile (· = []) =
      last :: before.reverse := by
    simp [segments, nonempty]
  unfold renameTarget
  rw [ite_throw_eq_ok_iff]
  refine ⟨(checkPath_eq_ok_iff.1 checked).1, bind_eq_ok_iff.2 ⟨(), checked, ?_⟩⟩
  dsimp only
  rw [reversed, noSlashes, origin_congr current]
  simp only [bind_eq_ok_iff, ite_throw_eq_ok_iff, pure_eq_ok_iff, List.reverse_reverse]
  exact ⟨directory, followed', (), requireDirectory_eq_ok_iff.2 (kept directory found),
    not_or.2 ⟨notDot, notUp⟩, place, named, not_not.2 rfl, noDirectory, rfl⟩

/-- The place of a temporary file was free, in a directory. -/
theorem Creates.free {directory : Path} {temporary : Temporary}
    (h : fs.Creates naming directory temporary) : fs.entry? temporary.place = none := by
  obtain ⟨_, _, free⟩ := h
  exact Naming.free_of_freeName? free

theorem Creates.mayHold {directory : Path} {temporary : Temporary}
    (h : fs.Creates naming directory temporary) : fs.MayHold temporary.place := by
  have free := h.free
  obtain ⟨_, found, _⟩ := h
  refine mayHold_of_directory (findDirectory_eq_ok_iff.1 found).2 ?_
  rw [free]
  exact nofun

theorem Creates.leavesTemporary {target : Path} {temporary : Temporary}
    (h : fs.Creates naming (temporaryDirectory target) temporary) (content : List UInt8) :
    LeavesTemporary fs (fs.put temporary.place content) target content temporary where
  directory := by
    obtain ⟨_, found, free⟩ := h
    exact ⟨_, _, found, Naming.isTemporaryName_of_freeName? free, rfl⟩
  free := h.free
  file := entry?_put_self h.mayHold content
  agree := agreeExcept_put h.mayHold content

/-- A temporary file is created exactly if `Creates` tells so. -/
theorem createTemporary_eq_ok_iff {directory : Path} {content : List UInt8}
    {temporary : Temporary} {files : FileSystem} :
    fs.createTemporary naming directory content = .ok (temporary, files) ↔
      fs.Creates naming directory temporary ∧ files = fs.put temporary.place content := by
  unfold createTemporary
  dsimp only
  constructor
  · intro h
    split at h
    case h_1 => exact nomatch h
    case h_2 place searched =>
      obtain ⟨_, checked, found⟩ := bind_eq_ok_iff.1 searched
      split at h
      case h_1 => exact nomatch h
      case h_2 name free =>
        obtain ⟨rfl, rfl⟩ := Prod.mk.inj (Except.ok.inj h)
        exact ⟨.intro checked found free, rfl⟩
  · rintro ⟨⟨checked, found, free⟩, rfl⟩
    rw [checked, found]
    dsimp only [SeqRight.seqRight, Except.bind]
    rw [free]

/-- A file that was put where nothing was found takes no part in the search for another place. -/
theorem renameTarget_put_of_free {free : Location} (h : fs.MayHold free) (content : List UInt8) :
    (fs.put free content).renameTarget p = .ok place ↔ fs.renameTarget p = .ok place := by
  have kept := keepsDirectories_put h content
  have lost := keepsDirectories_of_put h content
  constructor
  · intro target
    have noDirectory := (mayHold_of_renameTarget target).noDirectory
    exact renameTarget_of_keepsDirectories lost (by simp) target (mt (kept place) noDirectory)
  · intro target
    have noDirectory := (mayHold_of_renameTarget target).noDirectory
    exact renameTarget_of_keepsDirectories kept (by simp) target (mt (lost place) noDirectory)

/-- A file that was put into a directory can be renamed, unless its new name is refused. -/
theorem rename_put {temporary : Location} (h : fs.MayHold temporary) (content : List UInt8)
    (target : Path) :
    (fs.put temporary content).rename temporary target =
      (fs.put temporary content).renameTarget target >>= fun place =>
        .ok (((fs.put temporary content).remove temporary).put place content) := by
  rw [rename, entry?_put_self h]
  rfl

/-- A temporary file that was renamed has left nothing behind. -/
theorem rename_put_eq_ok_iff {temporary : Location} (h : fs.MayHold temporary)
    (free : fs.entry? temporary = none) {content : List UInt8} {files : FileSystem} :
    (fs.put temporary content).rename temporary p = .ok files ↔
      ∃ place, fs.renameTarget p = .ok place ∧ files = fs.put place content := by
  simp only [rename_put h, bind_eq_ok_iff, renameTarget_put_of_free h,
    remove_put_of_free free h.inside, Except.ok.injEq, @eq_comm _ files]

/-- A replacement fails and changes nothing, or its error keeps a temporary file with the new
content, or the file can be replaced and the new content is put at its place. -/
theorem replace_cases (fs : FileSystem) (naming : Naming) (target : Path) (content : List UInt8) :
    (∃ e, (fs.replace naming target content).result = .error e ∧ e.kept? = none ∧
        (fs.replace naming target content).files = fs) ∨
      (∃ cause temporary, fs.Creates naming (temporaryDirectory target) temporary ∧
        (fs.replace naming target content).result = .error (.notRenamed target cause temporary) ∧
        (fs.replace naming target content).files = fs.put temporary.place content) ∨
      ∃ place, fs.Replaceable naming target place ∧
        (fs.replace naming target content).result = .ok () ∧
        (fs.replace naming target content).files = fs.put place content := by
  unfold replace
  dsimp only
  split
  case h_1 cause path _ => exact Or.inl ⟨_, rfl, rfl, rfl⟩
  case h_2 temporary files created =>
    obtain ⟨creates, rfl⟩ := createTemporary_eq_ok_iff.1 created
    split
    case h_1 renamed hrenamed =>
      rw [rename_put_eq_ok_iff creates.mayHold creates.free] at hrenamed
      obtain ⟨place, target, rfl⟩ := hrenamed
      exact Or.inr (Or.inr ⟨place, ⟨⟨temporary, creates⟩, target⟩, rfl, rfl⟩)
    case h_2 cause _ => exact Or.inr (Or.inl ⟨cause, temporary, creates, rfl, rfl⟩)

theorem Replaceable.replace {target : Path} (h : fs.Replaceable naming target place)
    (content : List UInt8) :
    (fs.replace naming target content).result = .ok () ∧
      (fs.replace naming target content).files = fs.put place content := by
  obtain ⟨temporary, creates⟩ := h.temporary
  have created : fs.createTemporary naming (temporaryDirectory target) content =
      .ok (temporary, fs.put temporary.place content) :=
    createTemporary_eq_ok_iff.2 ⟨creates, rfl⟩
  have renamed : (fs.put temporary.place content).rename temporary.place target =
      .ok (fs.put place content) :=
    (rename_put_eq_ok_iff creates.mayHold creates.free).2 ⟨place, h.target, rfl⟩
  unfold FileSystem.replace
  dsimp only
  rw [created]
  dsimp only
  rw [renamed]
  exact ⟨rfl, rfl⟩

/-- A file that can be replaced is the one to which its path then leads. -/
theorem Replaceable.replaces {target : Path} (h : fs.Replaceable naming target place)
    (content : List UInt8) : Replaces fs (fs.put place content) target content place := by
  have mayHold := mayHold_of_renameTarget h.target
  have present : Option.isSome <| entry? (fs.put place content) place := by
    rw [entry?_put_self mayHold]
    rfl
  have kept := keepsDirectories_put mayHold content
  exact replaces_put mayHold (walk_of_renameTarget h.target kept (by simp) present)

end BitmapFont.FileSystem
