import BitmapFont.Proofs.FileSystem.Spellings
import BitmapFont.Proofs.GlyphFile
import BitmapFont.Proofs.Text.Ascii

/-!
# The choice between two places

The glyph source that a project asks for is used in the working directory, or else next to the
project file, of which a warning tells. The second place is passed over if it is the first one in
another spelling. As a file is found under every spelling of its path, this makes a difference only
if the first path is too long for the operating system.

## Main definitions

- `Project.redirection` — the warning that the second place is used
- `Project.Redirects` — when it is used
-/

namespace BitmapFont.Project

/-- The warning that a glyph source is used from next to the project file. -/
def redirection (here beside : Path) : Diagnostic :=
  .warn none s!"Font file {here.text} not found. Using {beside.text} next to the project file."

/-- Whether a relative file is used from its second place: there is no file at the first place and
there is one at the second. If the first path is too long, the second must not be another spelling
of it. -/
structure Redirects (fs : FileSystem) (file here beside : Path) : Prop where
  absent : fs.isFile here = false
  relative : file.isAbsolute = false
  present : fs.isFile beside = true
  another : FileSystem.maxPathBytes < Text.utf8Length here.text →
    beside.components ≠ here.components

variable {directives : Directives} {projectPath workingDir file path : Path} {fs : FileSystem}

theorem lastSegment_besideProject (projectPath workingDir file : Path) :
    (workingDir.join file).lastSegment = (besideProject projectPath file).lastSegment := by
  rw [besideProject, Path.lastSegment_join, Path.lastSegment_join]

/-- The second place is another one than the first if a file is found at the second only, unless
the first path is too long. -/
theorem Redirects.components_ne
    (h : Redirects fs file (workingDir.join file) (besideProject projectPath file)) :
    (besideProject projectPath file).components ≠ (workingDir.join file).components := by
  by_cases long : FileSystem.maxPathBytes < Text.utf8Length (workingDir.join file).text
  · exact h.another long
  · intro same
    have found := FileSystem.isFile_of_same_components same.symm
      (lastSegment_besideProject projectPath workingDir file) (Nat.not_lt.1 long) h.present
    exact Bool.false_ne_true (h.absent.symm.trans found)

/-- Only the files decide on a redirection from a path that is not too long. -/
theorem Redirects.iff_of_short {here beside : Path}
    (short : Text.utf8Length here.text ≤ FileSystem.maxPathBytes) :
    Redirects fs file here beside ↔
      fs.isFile here = false ∧ file.isAbsolute = false ∧ fs.isFile beside = true := by
  constructor
  · intro h
    exact ⟨h.absent, h.relative, h.present⟩
  · rintro ⟨absent, relative, present⟩
    exact ⟨absent, relative, present, fun long => absurd long (Nat.not_lt.2 short)⟩

theorem redirects_iff (absent : fs.isFile (workingDir.join file) = false) :
    Redirects fs file (workingDir.join file) (besideProject projectPath file) ↔
      (!file.isAbsolute && (besideProject projectPath file).components !=
          (workingDir.join file).components && fs.isFile (besideProject projectPath file)) =
        true := by
  simp only [Bool.and_eq_true, Bool.not_eq_true', bne_iff_ne]
  constructor
  · intro h
    exact ⟨⟨h.relative, h.components_ne⟩, h.present⟩
  · rintro ⟨⟨relative, another⟩, present⟩
    exact ⟨absent, relative, present, fun _ => another⟩

/-- A lookup ends in one of three ways. -/
theorem locate_cases (asked : Asks directives projectPath file) :
    let here := workingDir.join file
    let beside := besideProject projectPath file
    let asking := (requestedFile directives projectPath).notes
    (fs.isFile here = true ∧ locate directives projectPath workingDir fs =
        ⟨asking ++ [.info s!"FONT_FILE:{here.text}"], .ok here⟩) ∨
      (Redirects fs file here beside ∧ locate directives projectPath workingDir fs =
        ⟨asking ++ [redirection here beside, .info s!"FONT_FILE:{beside.text}"], .ok beside⟩) ∨
      (fs.isFile here = false ∧ ¬ Redirects fs file here beside ∧
        locate directives projectPath workingDir fs =
          ⟨asking, .error (.glyphFileNotFound here)⟩) := by
  intro here beside asking
  rw [locate, Noted.bind_eq_of_ok (requestedFile_eq_ok_iff.2 asked)]
  dsimp only
  split
  case isTrue present => exact Or.inl ⟨present, rfl⟩
  case isFalse absent =>
    have absent := Bool.eq_false_iff.2 absent
    split
    case isTrue usable => exact Or.inr (Or.inl ⟨(redirects_iff absent).2 usable, rfl⟩)
    case isFalse unusable =>
      refine Or.inr (Or.inr ⟨absent, mt (redirects_iff absent).1 unusable, ?_⟩)
      rw [Noted.fail, List.append_nil]

/-- The only remark on a request is that the project names no glyph source. -/
theorem notes_requestedFile_of_asks (asked : Asks directives projectPath file) :
    (requestedFile directives projectPath).notes = [] ∨
      (requestedFile directives projectPath).notes =
        [.warn none s!"FONT_FILE is not set. Trying {file.text}"] := by
  obtain ⟨given, nonempty⟩ | ⟨unnamed, goes⟩ := asked
  · rw [requestedFile_of_named given nonempty]
    exact Or.inl rfl
  · rw [requestedFile, filter_of_unnamed unnamed, goes]
    exact Or.inr rfl

theorem redirection_not_mem_request (asked : Asks directives projectPath file)
    (here beside : Path) :
    redirection here beside ∉ (requestedFile directives projectPath).notes := by
  obtain silent | unset := notes_requestedFile_of_asks asked
  · rw [silent]
    exact List.not_mem_nil
  · rw [unset, List.mem_singleton]
    intro same
    have texts := congrArg (·.message.toList[1]?) same
    simp [redirection, Diagnostic.warn, toString] at texts

/-- A lookup gives the path in the working directory if there is a file. -/
theorem locate_eq_here_iff (asked : Asks directives projectPath file) :
    (locate directives projectPath workingDir fs).result = .ok (workingDir.join file) ↔
      fs.isFile (workingDir.join file) = true := by
  obtain ⟨present, found⟩ | ⟨redirects, found⟩ | ⟨absent, _, found⟩ := locate_cases asked
  · rw [found]
    exact iff_of_true rfl present
  · rw [found, redirects.absent]
    refine iff_of_false (fun same => ?_) nofun
    have present := redirects.present
    rw [Except.ok.inj same, redirects.absent] at present
    exact nomatch present
  · rw [found, absent]
    exact iff_of_false nofun nofun

/-- A lookup gives the path next to the project file with a warning if it is redirected. -/
theorem locate_eq_beside_iff (asked : Asks directives projectPath file) :
    (locate directives projectPath workingDir fs).result =
          .ok (besideProject projectPath file) ∧
        redirection (workingDir.join file) (besideProject projectPath file) ∈
          (locate directives projectPath workingDir fs).notes ↔
      Redirects fs file (workingDir.join file) (besideProject projectPath file) := by
  obtain ⟨present, found⟩ | ⟨redirects, found⟩ | ⟨_, nowhere, found⟩ := locate_cases asked
  · -- If both paths are the same, the warning is missing.
    rw [found]
    refine iff_of_false (fun ⟨_, warned⟩ => ?_) fun h => ?_
    · obtain before | last := List.mem_append.1 warned
      · exact redirection_not_mem_request asked _ _ before
      · exact nomatch congrArg Diagnostic.level (List.mem_singleton.1 last)
    · exact nomatch h.absent.symm.trans present
  · rw [found]
    exact iff_of_true ⟨rfl, List.mem_append_right _ List.mem_cons_self⟩ redirects
  · rw [found]
    exact iff_of_false (fun h => nomatch h.1) nowhere

/-- A lookup fails and names the path in the working directory otherwise. -/
theorem locate_eq_notFound_iff (asked : Asks directives projectPath file) :
    (locate directives projectPath workingDir fs).result =
        .error (.glyphFileNotFound (workingDir.join file)) ↔
      fs.isFile (workingDir.join file) = false ∧
        ¬ Redirects fs file (workingDir.join file) (besideProject projectPath file) := by
  obtain ⟨present, found⟩ | ⟨redirects, found⟩ | ⟨absent, nowhere, found⟩ := locate_cases asked
  · rw [found, present]
    exact iff_of_false nofun (fun h => nomatch h.1)
  · rw [found]
    exact iff_of_false nofun fun h => h.2 redirects
  · rw [found]
    exact iff_of_true rfl ⟨absent, nowhere⟩

/-- A lookup gives the path of a file, and for an absolute request it is this request. -/
theorem isFile_of_locate (asked : Asks directives projectPath file)
    (h : (locate directives projectPath workingDir fs).result = .ok path) :
    fs.isFile path = true ∧ (file.isAbsolute = true → path = workingDir.join file) := by
  obtain ⟨present, found⟩ | ⟨redirects, found⟩ | ⟨_, _, found⟩ := locate_cases asked
  · rw [found] at h
    obtain rfl := Except.ok.inj h
    exact ⟨present, fun _ => rfl⟩
  · rw [found] at h
    obtain rfl := Except.ok.inj h
    exact ⟨redirects.present, fun absolute => nomatch absolute.symm.trans redirects.relative⟩
  · rw [found] at h
    exact nomatch h

/-- A request fails only if there is none. -/
theorem locate_eq_noFileName_iff :
    (locate directives projectPath workingDir fs).result = .error (.noFileName projectPath) ↔
      ∀ file, ¬ Asks directives projectPath file := by
  rw [locate_eq_error_iff]
  constructor
  · rintro ⟨unnamed, nameless⟩ file (⟨given, nonempty⟩ | ⟨_, goes⟩)
    · exact nonempty (unnamed _ given)
    · exact nomatch nameless.symm.trans goes
  · intro unasked
    obtain unnamed | ⟨name, given, nonempty⟩ := unnamed_or_named directives
    · refine .noFileName unnamed (Option.eq_none_iff_forall_ne_some.2 fun file goes => ?_)
      exact unasked file (.withProject unnamed goes)
    · exact absurd (.named given nonempty) (unasked ⟨name⟩)

/-- The glyph source that a project asks for is used in the working directory if there is a file.
It is used next to the project file, with a warning, if it is relative and there is a file only
there; but if the path in the working directory is too long, it must not be another spelling of the
path next to the project file. Otherwise the lookup fails and names the path in the working
directory. So what is used is always a file, an absolute request is never redirected, and nothing
but the files decides as long as the path in the working directory is not too long. Without a
request the project path has no file name. -/
theorem locate_here_then_beside (directives : Directives) (projectPath workingDir : Path)
    (fs : FileSystem) :
    let lookup := locate directives projectPath workingDir fs
    (∀ file, Asks directives projectPath file →
      let here := workingDir.join file
      let beside := besideProject projectPath file
      (lookup.result = .ok here ↔ fs.isFile here = true) ∧
      (lookup.result = .ok beside ∧ redirection here beside ∈ lookup.notes ↔
        Redirects fs file here beside) ∧
      (lookup.result = .error (.glyphFileNotFound here) ↔
        fs.isFile here = false ∧ ¬ Redirects fs file here beside) ∧
      (∀ path, lookup.result = .ok path →
        fs.isFile path = true ∧ (file.isAbsolute = true → path = here)) ∧
      (Text.utf8Length here.text ≤ FileSystem.maxPathBytes →
        (Redirects fs file here beside ↔
          fs.isFile here = false ∧ file.isAbsolute = false ∧ fs.isFile beside = true))) ∧
    (lookup.result = .error (.noFileName projectPath) ↔
      ∀ file, ¬ Asks directives projectPath file) := by
  intro lookup
  refine ⟨fun file asked => ?_, locate_eq_noFileName_iff⟩
  exact ⟨locate_eq_here_iff asked, locate_eq_beside_iff asked, locate_eq_notFound_iff asked,
    fun _ => isFile_of_locate asked, Redirects.iff_of_short⟩

/-- A project that names no glyph source and is not in the working directory, with a glyph source
next to it. -/
theorem locate_here_then_beside_of_only_beside :
    let fs : FileSystem := ⟨[(["d"], .directory), (["d", "p.rbf"], .file [])], [], by decide⟩
    let lookup := locate .empty ⟨"d/p.bfp"⟩ ⟨"w"⟩ fs
    lookup.result = .ok ⟨"d/p.rbf"⟩ ∧ redirection ⟨"w/p.rbf"⟩ ⟨"d/p.rbf"⟩ ∈ lookup.notes := by
  intro fs lookup
  have asked : Asks .empty ⟨"d/p.bfp"⟩ ⟨"p.rbf"⟩ := .withProject nofun (by decide)
  obtain ⟨_, beside, _⟩ := (locate_here_then_beside .empty ⟨"d/p.bfp"⟩ ⟨"w"⟩ fs).1 ⟨"p.rbf"⟩ asked
  exact beside.2 ⟨by decide, by decide, by decide, fun _ => by decide⟩

/-- A project in the working directory, which is written with thousands of slashes. The path of its
glyph source is too long there, and the short spelling next to the project file is passed over. -/
theorem locate_of_long_spelling :
    let fs : FileSystem := ⟨[(["a"], .directory), (["a", "font.rbf"], .file [])], [], by decide⟩
    let directives := (Directives.parse "FONT_FILE=font.rbf\n" .empty).1
    let projectPath : Path := ⟨"a/font.bfp"⟩
    let workingDir : Path := ⟨String.ofList (['a'] ++ List.replicate 4090 '/')⟩
    let file : Path := ⟨"font.rbf"⟩
    let here := workingDir.join file
    let beside := besideProject projectPath file
    Asks directives projectPath file ∧ fs.isFile here = false ∧ file.isAbsolute = false ∧
      fs.isFile beside = true ∧
      (locate directives projectPath workingDir fs).result = .error (.glyphFileNotFound here) := by
  intro fs directives projectPath workingDir file here beside
  have asked : Asks directives projectPath file := .named (by decide) (by decide)
  have written : here =
      ⟨String.ofList (['a'] ++ '/' :: (List.replicate 4089 '/' ++ file.text.toList))⟩ :=
    Path.join_slashes (by decide) ['a'] 4089
  have same : beside.components = here.components := by
    rw [written, Path.components_repeat_slash]
    decide
  have long : FileSystem.maxPathBytes < Text.utf8Length here.text := by
    refine Nat.lt_of_lt_of_le ?_ (Text.length_le_utf8Length here.text)
    rw [written, String.toList_ofList]
    simp only [List.length_append, List.length_cons, List.length_replicate]
    decide
  have absent : fs.isFile here = false := FileSystem.not_isFile_of_long long
  refine ⟨asked, absent, by decide, by decide, ?_⟩
  exact (locate_eq_notFound_iff asked).2 ⟨absent, fun h => h.another long same⟩

end BitmapFont.Project
