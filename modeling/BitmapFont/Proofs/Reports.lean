import BitmapFont.Proofs.Compilation
import BitmapFont.Proofs.GlyphSource.Again

/-!
# Reports, sessions and font files

The report of a compilation, the session after it and the font file that it has written tell the
same, except that the report shows the characters of the whole session.

## Main definitions

- `Report.Agrees` — a report agrees with a font file and the indices in use
-/

namespace BitmapFont

open FileSystem (Naming)

/-- Whether a report agrees with a font file, and with the indices in use before and after the
compilation that has written it. -/
structure Report.Agrees (report : Report) (data : List UInt8) (font : Font)
    (before after : IndexSet) : Prop where
  name : report.fontName = font.header.name
  size : report.size = data.length
  order : after.order = before.order ++ font.glyphs.map (·.index)
  distinct : after.order.Nodup
  characters : report.characters =
    after.order.map fun index => if index.toNat < 128 then Char.ofNat index.toNat else '?'
  /-- The characters of the report are those of the font only in a new session. -/
  alone : report.characters = font.characters ↔ before.order = []

theorem Charset.decodeAll_eq (charset : Charset) (indices : List UInt8) :
    charset.decodeAll indices =
      indices.map fun index => if index.toNat < 128 then Char.ofNat index.toNat else '?' := by
  refine List.map_congr_left fun index _ => ?_
  by_cases small : index.toNat < 128
  · simp [Charset.decode, small]
  · simp [Charset.decode, small]

/-- Decoded characters that begin with others are as many only if there are no others. -/
theorem Charset.decodeAll_append_eq_iff (charset other : Charset) (earlier indices : List UInt8) :
    charset.decodeAll (earlier ++ indices) = other.decodeAll indices ↔ earlier = [] := by
  constructor
  · intro same
    have lengths := congrArg List.length same
    simp only [decodeAll, List.length_map, List.length_append] at lengths
    exact List.length_eq_zero_iff.1 (by omega)
  · rintro rfl
    rw [charset.eq_ascii, other.eq_ascii, List.nil_append]

/-- Whether or not it succeeds, a job leaves the indices of a reading of its source in use. -/
theorem Job.used_run (job : Job) (naming : Naming) (used : IndexSet) (fs : FileSystem) :
    (job.run naming used fs).used =
      (GlyphSource.readText job.project.settings job.source used).used := by
  unfold run
  dsimp only
  split
  · rfl
  · rfl

theorem CompileRequest.used_attempt {r : CompileRequest} {fs : FileSystem} {job : Job}
    (prepared : (r.prepare fs).result = .ok job) (naming : Naming) (used : IndexSet) :
    (r.attempt naming used fs).used =
      (GlyphSource.readText job.project.settings job.source used).used := by
  rw [attempt_of_prepare prepared]
  exact job.used_run naming used fs

theorem used_compileWith (naming : Naming) (r : CompileRequest) (session : Session)
    (fs : FileSystem) :
    (compileWith naming r session fs).session.used = (r.attempt naming session.used fs).used := by
  rw [compileWith]

/-- The report of a job agrees with the font that is built from its source. -/
theorem Job.report_agrees {job : Job} {session : Session} {image : List UInt8} {font : Font}
    (name : font.header.name = job.project.settings.name)
    (order : (GlyphSource.readText job.project.settings job.source session.used).used.order =
      session.used.order ++ font.glyphs.map (·.index)) :
    (job.report session.used image).Agrees image font session.used
      (GlyphSource.readText job.project.settings job.source session.used).used where
  name := name.symm
  size := rfl
  order := order
  distinct := IndexSet.nodup _
  characters := Charset.decodeAll_eq _ _
  alone := by
    rw [report, order, Font.characters]
    exact Charset.decodeAll_append_eq_iff _ _ _ _

/-- A compilation that succeeds has written a font file to the reported path, and its report agrees
with this file and with the indices in use before and after it. A font that was built is built
again in the session after it, but without a glyph. -/
theorem compileWith_report_agrees :
    (∀ (naming : Naming) (r : CompileRequest) (session : Session) (fs : FileSystem)
        (report : Report),
      (compileWith naming r session fs).result = .ok report →
      ∃ data font, (compileWith naming r session fs).files.read report.output = .ok data ∧
        Image.read data = .ok font ∧
        report.Agrees data font session.used (compileWith naming r session fs).session.used) ∧
    (∀ (settings : FontSettings) (text : String) (session : Session) (image : List UInt8),
      (buildFont settings text session).1 = .ok image →
      ∃ again font,
        (buildFont settings text (buildFont settings text session).2).1 = .ok again ∧
          Image.read again = .ok font ∧ font.glyphs = []) := by
  refine ⟨fun naming r session fs report succeeded => ?_,
    fun _ _ _ _ => GlyphSource.buildFont_again⟩
  rw [result_compileWith] at succeeded
  obtain ⟨job, image, place, prepared, rfl, built, replaceable, files⟩ :=
    CompileRequest.exists_of_attempt_eq_ok succeeded
  rw [← job.buildFont_eq session] at built
  obtain ⟨font, accepted, name, -, order⟩ := GlyphSource.read_of_buildFont built
  rw [used_compileWith, CompileRequest.used_attempt prepared, files_compileWith, files]
  exact ⟨image, font, (replaceable.replaces image).read, accepted, job.report_agrees name order⟩

/-- In a session in which `A` and an index beyond ASCII are in use, a source for `A` and `B` gives
a font of one glyph. -/
theorem compileWith_report_agrees_second_font :
    let content (text : String) : List UInt8 := text.toList.map fun c => UInt8.ofNat c.toNat
    let fs : FileSystem :=
      ⟨[(["p"], .file (content "CHARSET=ASCII\nFONT_WIDTH=8\nFONT_HEIGHT=1\nFONT_FILE=g")),
        (["g"], .file (content "A=00000001\nB=00000010"))], [], by decide⟩
    let session : Session := ⟨.empty, ⟨[0x41, 200], by decide⟩⟩
    let done := compileWith FileSystem.firstFreeName ⟨⟨"p"⟩, none, none⟩ session fs
    let report : Report := ⟨⟨"p.bff"⟩, "FONT", ['A', '?', 'B'], 17⟩
    let settings : FontSettings := ⟨.ascii, .w8, 1, .white, "F"⟩
    (∃ data font, done.files.read report.output = .ok data ∧ Image.read data = .ok font ∧
      report.Agrees data font session.used done.session.used) ∧
    ∃ again font,
      (buildFont settings "A=00000001" (buildFont settings "A=00000001" .empty).2).1 = .ok again ∧
        Image.read again = .ok font ∧ font.glyphs = [] := by
  intro content fs session done report settings
  have succeeded : done.result = .ok report := by decide +kernel
  have built : (buildFont settings "A=00000001" .empty).1 =
      .ok [0xBF, 0xFF, 1, 0, 8, 1, 1, 255, 255, 255, 0x46, 0, 0x41, 1] := by
    decide +kernel
  obtain ⟨agree, again⟩ := compileWith_report_agrees
  exact ⟨agree _ ⟨⟨"p"⟩, none, none⟩ session fs report succeeded,
    again settings "A=00000001" .empty _ built⟩

end BitmapFont
