import BitmapFont.Compilation.Request
import BitmapFont.Proofs.FileSystem.Children

/-!
# Where a font file goes by default

A font file goes with its project file: it has the same stem and the extension of font files. It is
put into the working directory, wherever the project file is, so a project file that is already at
such a place has a font file under its own path. Only a path without a file name has no font file.

## Main definitions

- `Path.Nameless` — the paths that have no file name
- `Path.LeadsInto` — the paths of a file in a directory
- `CompileRequest.outputName` — the name of the font file that goes with a project file
-/

namespace BitmapFont

namespace Path

/-- Whether a path has no file name: it is empty, or it has only a root or a dot, or it ends by
leading up. -/
inductive Nameless (p : Path) : Prop
  | empty (h : p.text = "")
  | onlyStart (h : ∀ c ∈ p.components, c = .root ∨ c = .current)
  | up (h : p.components.getLast? = some .parent)

/-- Whether a path is that of a file in a directory, with a stem and an extension. -/
structure LeadsInto (p directory : Path) (stem extension : List Char) : Prop where
  parent : ∃ q, p.parent? = some q ∧ q.components = directory.components
  child : ∃ name, p.components = directory.components ++ [.normal name]
  stem : p.fileStem? = some stem
  extension : p.extension? = some extension

/-- A path has no file name if it is nameless, and only then. -/
theorem nameless_iff {p : Path} : p.Nameless ↔ p.fileName? = none := by
  rw [Option.eq_none_iff_forall_ne_some]
  constructor
  · intro nameless name found
    have last := fileName?_eq_some_iff.1 found
    cases nameless with
    | empty h =>
      rw [show p = ⟨""⟩ from congrArg Path.mk h] at last
      exact nomatch last
    | onlyStart h =>
      obtain root | current := h _ (List.mem_of_getLast? last)
      · exact nomatch root
      · exact nomatch current
    | up h => exact nomatch h.symm.trans last
  · intro noName
    have components := p.components_eq
    cases last : ((Text.pieces '/' p.text.toList).filterMap segmentComponent?).getLast? with
    | none =>
      rw [List.getLast?_eq_none_iff.1 last, List.append_nil] at components
      refine .onlyStart fun c among => ?_
      rw [components] at among
      exact lead_cases among
    | some c =>
      have final : p.components.getLast? = some c := by
        rw [components, List.getLast?_append, last, Option.some_or]
      obtain rfl | ⟨name, rfl, _⟩ := segment_cases (List.mem_of_getLast? last)
      · exact .up final
      · exact absurd (fileName?_eq_some_iff.2 final) (noName name)

end Path

namespace CompileRequest

variable {project : Path} {workingDir : Option Path}

/-- A path without a file name has no font file. -/
theorem outputPath_of_nameless (h : project.fileName? = none) :
    outputPath ⟨project, none, workingDir⟩ = .error (.noFileName project) := by
  have nothing : project.withExtension? outputExtension = none := by
    rw [Path.withExtension?, Path.fileStem?, h]
    rfl
  rw [outputPath]
  dsimp only
  rw [nothing]

/-- The name of the font file that goes with a project file of the given name. -/
def outputName (name : List Char) : List Char :=
  Path.stem name ++ '.' :: outputExtension.toList

/-- The name of a font file is a name. -/
theorem isName_outputName {name : List Char} (h : Path.IsName name) :
    Path.IsName (outputName name) := by
  have long : 2 < (outputName name).length := by
    rw [outputName, List.length_append, List.length_cons]
    exact Nat.lt_of_lt_of_le (by decide) (Nat.le_add_left _ _)
  refine ⟨?_, ?_, ?_⟩
  · rw [outputName, List.mem_append, not_or]
    exact ⟨fun slash => h.noSlash ((Path.stem_isPrefix name).mem slash), by decide⟩
  · rw [Bool.eq_false_iff, ne_eq, Path.isIdle_iff]
    rintro (same | same)
    · rw [same] at long
      exact absurd long (by decide)
    · rw [same] at long
      exact absurd long (by decide)
  · intro same
    rw [same] at long
    exact absurd long (by decide)

theorem outputPath_of_fileName? {name : List Char} (h : project.fileName? = some name) :
    outputPath ⟨project, none, workingDir⟩ =
      .ok ((workingDir.getD ⟨""⟩).join ⟨String.ofList (outputName name)⟩) := by
  have text : String.ofList (Path.stem name) ++ "." ++ outputExtension =
      String.ofList (outputName name) := by
    rw [outputName, ← List.singleton_append, String.ofList_append, String.ofList_append,
      String.ofList_toList, String.append_assoc]
  have chosen : project.withExtension? outputExtension = some ⟨String.ofList (outputName name)⟩ := by
    rw [Path.withExtension?, Path.fileStem?, h, Option.map_some, Option.map_some, text]
  rw [outputPath]
  dsimp only
  rw [chosen]
  rfl

/-- The font file is in the working directory and has the stem of the project file. -/
theorem leadsInto_outputName {name : List Char} (h : Path.IsName name) (directory : Path) :
    (directory.join ⟨String.ofList (outputName name)⟩).LeadsInto directory (Path.stem name)
      outputExtension.toList := by
  have isName := isName_outputName h
  obtain ⟨stem, extension⟩ := Path.stem_append_dot (Path.stem_ne_nil h.ne_nil)
    (by decide : '.' ∉ outputExtension.toList)
  refine ⟨isName.exists_parent?_join directory, ⟨_, isName.components_join directory⟩, ?_, ?_⟩
  · rw [Path.fileStem?, isName.fileName?_join, Option.map_some]
    exact congrArg some stem
  · rw [Path.extension?, isName.fileName?_join, Option.bind_some]
    exact extension

theorem outputName_outputName {name : List Char} (h : Path.IsName name) :
    outputName (outputName name) = outputName name := by
  have stem := (Path.stem_append_dot (Path.stem_ne_nil h.ne_nil)
    (by decide : '.' ∉ outputExtension.toList)).1
  rw [outputName, outputName, stem]

/-- A project file whose path has no file name has no font file by default, and every other has one.
It is in the working directory, whatever the path of the project file is, and has the stem of the
project file and the extension of font files. A project file with such a path has it as the path of
its font file too. -/
theorem outputPath_goes_with_project (project : Path) (workingDir : Option Path) :
    let r : CompileRequest := ⟨project, none, workingDir⟩
    ((∃ e, r.outputPath = .error e) ↔ project.Nameless) ∧
    (∀ e, r.outputPath = .error e → e = .noFileName project) ∧
    ∀ output, r.outputPath = .ok output →
      (∃ stem, project.fileStem? = some stem ∧
        output.LeadsInto r.baseDir stem outputExtension.toList) ∧
      (workingDir = none → output.parent? = some ⟨""⟩) ∧
      outputPath ⟨output, none, workingDir⟩ = .ok output := by
  intro r
  cases named : project.fileName? with
  | none =>
    have failed : r.outputPath = .error (.noFileName project) := outputPath_of_nameless named
    refine ⟨⟨fun _ => Path.nameless_iff.2 named, fun _ => ⟨_, failed⟩⟩, ?_, ?_⟩
    · intro e same
      exact Except.error.inj (same.symm.trans failed)
    · intro output done
      exact nomatch failed.symm.trans done
  | some name =>
    have isName := Path.isName_of_fileName? named
    have done : r.outputPath = .ok (r.baseDir.join ⟨String.ofList (outputName name)⟩) :=
      outputPath_of_fileName? named
    refine ⟨⟨?_, ?_⟩, ?_, ?_⟩
    · rintro ⟨e, failed⟩
      exact nomatch done.symm.trans failed
    · intro nameless
      exact nomatch named.symm.trans (Path.nameless_iff.1 nameless)
    · intro e failed
      exact nomatch done.symm.trans failed
    · intro output chosen
      obtain rfl := Except.ok.inj (done.symm.trans chosen)
      refine ⟨⟨Path.stem name, ?_, leadsInto_outputName isName r.baseDir⟩, ?_, ?_⟩
      · rw [Path.fileStem?, named, Option.map_some]
      · rintro rfl
        exact (isName_outputName isName).parent?_join_empty
      · have again := (isName_outputName isName).fileName?_join r.baseDir
        rw [outputPath_of_fileName? again, outputName_outputName isName]
        rfl

/-- A project file whose path leads up and down again and whose name is two dots before a letter. Its
font file is in the working directory, and is its own font file. A directory above has none. -/
theorem outputPath_goes_with_project_of_two_dots :
    let output : Path := ⟨"/w/./..bff"⟩
    (CompileRequest.mk ⟨"a/../..x//."⟩ none (some ⟨"/w/."⟩)).outputPath = .ok output ∧
      output.LeadsInto ⟨"/w/."⟩ ['.'] "bff".toList ∧
      (CompileRequest.mk output none (some ⟨"/w/."⟩)).outputPath = .ok output ∧
      (CompileRequest.mk ⟨"a"⟩ none none).outputPath = .ok ⟨"a.bff"⟩ ∧
      Path.parent? ⟨"a.bff"⟩ = some ⟨""⟩ ∧
      (∃ e, (CompileRequest.mk ⟨"./a/.."⟩ none none).outputPath = .error e) ∧
      ∀ e, (CompileRequest.mk ⟨"./a/.."⟩ none none).outputPath = .error e →
        e = .noFileName ⟨"./a/.."⟩ := by
  intro output
  have done : (CompileRequest.mk ⟨"a/../..x//."⟩ none (some ⟨"/w/."⟩)).outputPath = .ok output := by
    decide +kernel
  have plain : (CompileRequest.mk ⟨"a"⟩ none none).outputPath = .ok ⟨"a.bff"⟩ := by decide +kernel
  have up : Path.Nameless ⟨"./a/.."⟩ := .up (by decide +kernel)
  obtain ⟨-, -, chosen⟩ := outputPath_goes_with_project ⟨"a/../..x//."⟩ (some ⟨"/w/."⟩)
  obtain ⟨-, -, chosen'⟩ := outputPath_goes_with_project ⟨"a"⟩ none
  obtain ⟨refused, cause, -⟩ := outputPath_goes_with_project ⟨"./a/.."⟩ none
  obtain ⟨⟨stem, stemmed, leads⟩, -, again⟩ := chosen output done
  have same : stem = ['.'] := by
    have found : Path.fileStem? ⟨"a/../..x//."⟩ = some ['.'] := by decide +kernel
    exact Option.some.inj (stemmed.symm.trans found)
  subst same
  exact ⟨done, leads, again, plain, (chosen' _ plain).2.1 rfl, refused.2 up, cause⟩

end CompileRequest

end BitmapFont
