import BitmapFont.Proofs.Compilation
import BitmapFont.Proofs.FileSystem.FileNames
import BitmapFont.Proofs.GlyphSource.Limits
import BitmapFont.Proofs.Resolution

/-!
# Errors that never come up

Some checks of a compilation only guard against mistakes elsewhere in the program. None of them
fails, because what they check was settled before: the name of the font when the project was
resolved, the shape and the number of the glyphs when the source was read, and the name of the
project file when it was opened.

## Main definitions

- `AssemblyError.Defensive` — the errors of checks that never fail
-/

namespace BitmapFont

open FileSystem (Naming)

/-- Whether an error is that of a check which never fails. -/
inductive AssemblyError.Defensive : AssemblyError GlyphError → Prop
  | tooManyGlyphs : Defensive .tooManyGlyphs
  | wrongHeight (char : Char) (found expected : Nat) : Defensive (.wrongHeight char found expected)
  | write (cause : Image.WriteError) : Defensive (.write cause)
  | overflow (line : Nat) (row : String) : Defensive (.stream (.overflow line row))

namespace CompileRequest

variable {r : CompileRequest} {fs : FileSystem} {e : CompileError}

theorem outputPath_error_cases {cause : ProjectError} (h : r.outputPath = .error cause) :
    cause = .noFileName r.project ∧ r.project.withExtension? outputExtension = none := by
  unfold outputPath at h
  split at h
  case h_1 => exact nomatch h
  case h_2 =>
    split at h
    case h_1 => exact nomatch h
    case h_2 none => exact ⟨(Except.error.inj h).symm, none⟩

/-- A project file that can be read has a file name, so none of the paths that depend on it is
missing. -/
theorem prepare_ne_noFileName (path : Path) :
    (r.prepare fs).result ≠ .error (.project (.noFileName path)) := by
  intro h
  obtain ⟨_, _, impossible⟩ | ⟨text, cause, readable, same, failed⟩ := prepare_error_cases h
  · exact nomatch impossible
  obtain rfl := CompileError.project.inj same
  obtain ⟨content, found, _⟩ := readText_eq_ok_iff.1 readable
  have named : r.projectPath.EndsInName := FileSystem.endsInName_of_read found
  -- The glyph source goes with the path that was read, the font file with the path as it is given.
  obtain unresolved | unnamed := failed
  · obtain notLocated | ⟨key, about⟩ := Project.resolve_error_cases unresolved
    · cases notLocated with
      | noFileName _ none =>
        obtain ⟨file, some⟩ := named.exists_withExtension? Project.glyphExtension
        exact nomatch none.symm.trans some
    · exact nomatch about
  · obtain ⟨_, none⟩ := outputPath_error_cases unnamed
    have project : r.project.EndsInName := Path.endsInName_join.1 named
    obtain ⟨output, some⟩ := project.exists_withExtension? outputExtension
    exact nomatch none.symm.trans some

end CompileRequest

variable {naming : Naming} {used : IndexSet} {fs : FileSystem} {e : CompileError}

theorem Job.run_error_cases {job : Job} (h : (job.run naming used fs).result = .error e) :
    (∃ cause, job.image used = .error cause ∧ e = .build cause) ∨ ∃ cause, e = .replace cause := by
  unfold run at h
  dsimp only at h
  split at h
  case h_1 cause failed => exact Or.inl ⟨cause, failed, (Except.error.inj h).symm⟩
  case h_2 =>
    obtain ⟨cause, _, same⟩ := mapError_eq_error_iff.1 h
    exact Or.inr ⟨cause, same.symm⟩

theorem CompileRequest.attempt_error_cases {r : CompileRequest}
    (h : (r.attempt naming used fs).result = .error e) :
    (r.prepare fs).result = .error e ∨
      ∃ job, (r.prepare fs).result = .ok job ∧ (job.run naming used fs).result = .error e := by
  cases prepared : (r.prepare fs).result with
  | error cause =>
    rw [attempt_of_error prepared] at h
    obtain rfl := Except.error.inj h
    exact Or.inl rfl
  | ok job =>
    rw [attempt_of_prepare prepared] at h
    exact Or.inr ⟨job, rfl, h⟩

/-- A job that was prepared fails to be built only by a mistake in its source, which is no
overflow. -/
theorem not_defensive_of_attempt {r : CompileRequest} {cause : AssemblyError GlyphError}
    (h : (r.attempt naming used fs).result = .error (.build cause)) : ¬ cause.Defensive := by
  obtain failed | ⟨job, prepared, failed⟩ := CompileRequest.attempt_error_cases h
  · obtain ⟨_, _, impossible⟩ | ⟨_, _, _, impossible, _⟩ :=
      CompileRequest.prepare_error_cases failed
    · exact nomatch impossible
    · exact nomatch impossible
  obtain ⟨_, failed, same⟩ | ⟨_, impossible⟩ := Job.run_error_cases failed
  · obtain rfl := CompileError.build.inj same
    obtain ⟨_, _, resolved, _, _⟩ := CompileRequest.prepare_cases prepared
    -- The settings come from a resolved project, so the name can be written.
    have name := Project.storable_name_of_resolve resolved
    obtain ⟨mistake, ended, rfl⟩ := GlyphSource.stream_of_assemble_error name failed
    rintro (_ | _ | _ | ⟨line, row⟩)
    exact GlyphSource.ne_overflow_of_failure ended line row rfl
  · exact nomatch impossible

theorem ne_noFileName_of_attempt {r : CompileRequest} (path : Path) :
    (r.attempt naming used fs).result ≠ .error (.project (.noFileName path)) := by
  intro h
  obtain failed | ⟨job, _, failed⟩ := CompileRequest.attempt_error_cases h
  · exact CompileRequest.prepare_ne_noFileName path failed
  · obtain ⟨_, _, impossible⟩ | ⟨_, impossible⟩ := Job.run_error_cases failed
    · exact nomatch impossible
    · exact nomatch impossible

/-- No compilation fails by a check that only guards against mistakes elsewhere, and a project that
can be read has a file name. Whatever the source of a font says, each of
its definitions has as many rows as the settings tell, none of them too wide, and the index of a
character of ASCII that is not the line feed. There are at most 127 of them, and a built font file
counts them all. -/
theorem compileWith_error_not_defensive (naming : Naming) (r : CompileRequest) (session : Session)
    (fs : FileSystem) :
    (∀ e, (compileWith naming r session fs).result = .error (.build e) → ¬ e.Defensive) ∧
    (∀ path, (compileWith naming r session fs).result ≠ .error (.project (.noFileName path))) ∧
    ∀ (settings : FontSettings) (text : String),
      let definitions := (GlyphSource.readText settings text session.used).definitions
      (∀ d ∈ definitions, d.rows.length = settings.height.toNat ∧
        (∀ row ∈ d.rows, row.toNat ≤ settings.width.maxValue) ∧
          d.index.toNat < 128 ∧ d.index ≠ 10) ∧
      definitions.length ≤ 127 ∧
      ∀ image, (buildFont settings text session).1 = .ok image →
        ∃ count, image[Header.glyphCountOffset]? = some count ∧
          count.toNat = definitions.length := by
  rw [result_compileWith]
  refine ⟨fun e => not_defensive_of_attempt, fun path => ne_noFileName_of_attempt path, ?_⟩
  intro settings text definitions
  refine ⟨fun d hd => ?_, GlyphSource.length_definitions_le settings text session.used,
    fun image => GlyphSource.exists_glyphCount⟩
  obtain ⟨height, width⟩ := GlyphSource.fits_of_definition hd
  exact ⟨height, width, GlyphSource.index_of_definition hd⟩

/-- A project in a directory whose source has a row of one digit. -/
theorem compileWith_error_not_defensive_short_row :
    let content (text : String) : List UInt8 := text.toList.map fun c => UInt8.ofNat c.toNat
    let fs : FileSystem :=
      ⟨[(["d"], .directory),
        (["d", "p"], .file (content "CHARSET=ASCII\nFONT_WIDTH=8\nFONT_HEIGHT=1\nFONT_FILE=g")),
        (["d", "g"], .file (content "A=1"))], [], by decide⟩
    let done := compileWith FileSystem.firstFreeName ⟨⟨"d/p"⟩, none, none⟩ .empty fs
    let settings : FontSettings := ⟨.ascii, .w8, 1, .white, "F"⟩
    let image : List UInt8 := [0xBF, 0xFF, 1, 0, 8, 1, 1, 255, 255, 255, 0x46, 0, 0x41, 1]
    (∃ e, done.result = .error (.build e) ∧ ¬ e.Defensive) ∧
      (∀ path, done.result ≠ .error (.project (.noFileName path))) ∧
      (buildFont settings "A=00000001" .empty).1 = .ok image ∧
      ∃ count, image[Header.glyphCountOffset]? = some count ∧
        count.toNat = (GlyphSource.readText settings "A=00000001" .empty).definitions.length := by
  intro content fs done settings image
  have failed : done.result = .error (.build (.stream (.wrongWidth 1 8 1))) := by decide +kernel
  have built : (buildFont settings "A=00000001" .empty).1 = .ok image := by decide +kernel
  obtain ⟨notDefensive, named, limits⟩ := compileWith_error_not_defensive FileSystem.firstFreeName
    ⟨⟨"d/p"⟩, none, none⟩ .empty fs
  exact ⟨⟨_, failed, notDefensive _ failed⟩, named, built,
    (limits settings "A=00000001").2.2 image built⟩

end BitmapFont
