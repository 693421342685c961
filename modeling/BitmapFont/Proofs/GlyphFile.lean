import BitmapFont.Project.GlyphFile
import BitmapFont.Proofs.Outcome

/-!
# Where glyph sources are found

A project asks for one glyph source. The file in the working directory is used if there is one, and
otherwise the file next to the project file, unless the request is absolute. The answer depends on
the file system and on a single key of the project.

## Main definitions

- `Project.Unnamed` — projects that leave the glyph source to go with the project file
- `Project.Asks` — the glyph source that a project asks for
- `Project.Finds` — the path under which it is found
- `Project.NotLocated` — why it is not
-/

namespace BitmapFont.Project

/-- Whether a project names no glyph source. An empty name is none. -/
def Unnamed (directives : Directives) : Prop :=
  ∀ name, value? directives .fontFile = some name → name = ""

/-- The glyph source that a project asks for: the one that it names, or else the one that goes with
the project file. -/
inductive Asks (directives : Directives) (projectPath : Path) : Path → Prop
  | named {name : String} (given : value? directives .fontFile = some name)
      (nonempty : name ≠ "") : Asks directives projectPath ⟨name⟩
  | withProject {file : Path} (unnamed : Unnamed directives)
      (goes : projectPath.withExtension? glyphExtension = some file) :
      Asks directives projectPath file

/-- The path under which the glyph source of a project is found: the file that it asks for as seen
from the working directory, or else, if this is another place and the request is relative, as seen
from the directory of the project file. -/
inductive Finds (directives : Directives) (projectPath workingDir : Path) (fs : FileSystem) :
    Path → Prop
  | working {file : Path} (asked : Asks directives projectPath file)
      (present : fs.isFile (workingDir.join file) = true) :
      Finds directives projectPath workingDir fs (workingDir.join file)
  | beside {file : Path} (asked : Asks directives projectPath file)
      (absent : fs.isFile (workingDir.join file) = false) (relative : file.isAbsolute = false)
      (another : (besideProject projectPath file).components ≠ (workingDir.join file).components)
      (present : fs.isFile (besideProject projectPath file) = true) :
      Finds directives projectPath workingDir fs (besideProject projectPath file)

/-- Why no glyph source is located: the project asks for none, or the one that it asks for is not
found. -/
inductive NotLocated (directives : Directives) (projectPath workingDir : Path) (fs : FileSystem) :
    ProjectError → Prop
  | noFileName (unnamed : Unnamed directives)
      (nameless : projectPath.withExtension? glyphExtension = none) :
      NotLocated directives projectPath workingDir fs (.noFileName projectPath)
  | notFound {file : Path} (asked : Asks directives projectPath file)
      (nowhere : ∀ path, ¬ Finds directives projectPath workingDir fs path) :
      NotLocated directives projectPath workingDir fs (.glyphFileNotFound (workingDir.join file))

variable {directives : Directives} {projectPath workingDir file path : Path} {fs : FileSystem}
  {e : ProjectError}

theorem unnamed_or_named (directives : Directives) :
    Unnamed directives ∨ ∃ name, value? directives .fontFile = some name ∧ name ≠ "" := by
  rw [or_iff_not_imp_left, Unnamed]
  intro h
  push Not at h
  exact h

theorem requestedFile_of_named {name : String}
    (given : value? directives .fontFile = some name) (nonempty : name ≠ "") :
    requestedFile directives projectPath = pure ⟨name⟩ := by
  have filtered : (value? directives .fontFile).filter (· ≠ "") = some name := by
    rw [given]
    simp [nonempty]
  rw [requestedFile, filtered]

theorem filter_of_unnamed (unnamed : Unnamed directives) :
    (value? directives .fontFile).filter (· ≠ "") = none := by
  rw [Option.filter_eq_none_iff]
  intro name given
  simpa using unnamed name given

theorem result_requestedFile_of_unnamed (unnamed : Unnamed directives) :
    (requestedFile directives projectPath).result =
      match projectPath.withExtension? glyphExtension with
      | none => .error (.noFileName projectPath)
      | some file => .ok file := by
  rw [requestedFile, filter_of_unnamed unnamed]
  cases projectPath.withExtension? glyphExtension with
  | none => rfl
  | some file => rfl

theorem requestedFile_eq_ok_iff :
    (requestedFile directives projectPath).result = .ok file ↔
      Asks directives projectPath file := by
  obtain unnamed | ⟨name, given, nonempty⟩ := unnamed_or_named directives
  · rw [result_requestedFile_of_unnamed unnamed]
    constructor
    · intro h
      split at h
      case h_1 => exact nomatch h
      case h_2 _ goes =>
        obtain rfl := Except.ok.inj h
        exact .withProject unnamed goes
    · rintro (⟨given, nonempty⟩ | ⟨_, goes⟩)
      · exact absurd (unnamed _ given) nonempty
      · rw [goes]
  · rw [requestedFile_of_named given nonempty]
    constructor
    · intro h
      obtain rfl := Except.ok.inj h
      exact .named given nonempty
    · rintro (⟨given', _⟩ | ⟨unnamed, _⟩)
      · obtain rfl := Option.some.inj (given.symm.trans given')
        rfl
      · exact absurd (unnamed name given) nonempty

theorem requestedFile_eq_error_iff :
    (requestedFile directives projectPath).result = .error e ↔
      Unnamed directives ∧ projectPath.withExtension? glyphExtension = none ∧
        e = .noFileName projectPath := by
  obtain unnamed | ⟨name, given, nonempty⟩ := unnamed_or_named directives
  · rw [result_requestedFile_of_unnamed unnamed]
    cases projectPath.withExtension? glyphExtension with
    | none => simp [unnamed, eq_comm]
    | some file => simp
  · rw [requestedFile_of_named given nonempty]
    constructor
    · exact nofun
    · rintro ⟨unnamed, _⟩
      exact absurd (unnamed name given) nonempty

/-- A project asks for one glyph source. -/
theorem Asks.unique {other : Path} (h : Asks directives projectPath file)
    (h' : Asks directives projectPath other) : other = file :=
  Except.ok.inj ((requestedFile_eq_ok_iff.2 h').symm.trans (requestedFile_eq_ok_iff.2 h))

/-- The glyph source of a project is located where it is found. -/
theorem locate_eq_ok_iff :
    (locate directives projectPath workingDir fs).result = .ok path ↔
      Finds directives projectPath workingDir fs path := by
  rw [locate, Noted.bind_eq_ok_iff]
  simp only [requestedFile_eq_ok_iff]
  constructor
  · rintro ⟨file, asked, found⟩
    split at found
    case isTrue present =>
      obtain rfl := Except.ok.inj found
      exact .working asked present
    case isFalse absent =>
      split at found
      case isTrue usable =>
        obtain rfl := Except.ok.inj found
        simp only [Bool.and_eq_true, Bool.not_eq_true', bne_iff_ne] at usable
        obtain ⟨⟨relative, another⟩, present⟩ := usable
        exact .beside asked (Bool.eq_false_iff.2 absent) relative another present
      case isFalse => exact nomatch found
  · rintro (@⟨file, asked, present⟩ | @⟨file, asked, absent, relative, another, present⟩)
    · exact ⟨file, asked, by rw [if_pos present]; rfl⟩
    · have usable : (!file.isAbsolute && (besideProject projectPath file).components !=
          (workingDir.join file).components && fs.isFile (besideProject projectPath file)) =
            true := by
        simp only [relative, present, bne_iff_ne.2 another, Bool.not_false, Bool.and_self]
      refine ⟨file, asked, ?_⟩
      rw [if_neg (Bool.eq_false_iff.1 absent), if_pos usable]
      rfl

theorem notLocated_of_error
    (failed : (locate directives projectPath workingDir fs).result = .error e) :
    NotLocated directives projectPath workingDir fs e := by
  have nowhere (path : Path) : ¬ Finds directives projectPath workingDir fs path := by
    intro found
    exact nomatch failed.symm.trans (locate_eq_ok_iff.2 found)
  obtain noRequest | ⟨file, asked, absent⟩ := Noted.bind_eq_error_iff.1 failed
  · obtain ⟨unnamed, nameless, rfl⟩ := requestedFile_eq_error_iff.1 noRequest
    exact .noFileName unnamed nameless
  · dsimp only at absent
    split at absent
    · exact nomatch absent
    · split at absent
      · exact nomatch absent
      · obtain rfl := Except.error.inj absent
        exact .notFound (requestedFile_eq_ok_iff.1 asked) nowhere

/-- No glyph source is located for exactly one reason. -/
theorem locate_eq_error_iff :
    (locate directives projectPath workingDir fs).result = .error e ↔
      NotLocated directives projectPath workingDir fs e := by
  refine ⟨notLocated_of_error, ?_⟩
  rintro (⟨unnamed, nameless⟩ | ⟨asked, nowhere⟩)
  · have noRequest := requestedFile_eq_error_iff.2 ⟨unnamed, nameless, rfl⟩
    exact Noted.bind_eq_error_iff.2 (Or.inl noRequest)
  · -- The lookup fails for some reason, and only this one is possible as there is a request.
    cases outcome : (locate directives projectPath workingDir fs).result with
    | ok path => exact absurd (locate_eq_ok_iff.1 outcome) (nowhere path)
    | error e =>
      obtain ⟨unnamed, nameless⟩ | ⟨asked', _⟩ := notLocated_of_error outcome
      · obtain ⟨given, nonempty⟩ | ⟨_, goes⟩ := asked
        · exact absurd (unnamed _ given) nonempty
        · exact nomatch nameless.symm.trans goes
      · rw [asked.unique asked']

/-- Where a glyph source is located depends on no key but its own. -/
theorem locate_of_same_fontFile {directives' : Directives}
    (same : value? directives' .fontFile = value? directives .fontFile) :
    locate directives' projectPath workingDir fs = locate directives projectPath workingDir fs := by
  simp only [locate, requestedFile, same]

end BitmapFont.Project
