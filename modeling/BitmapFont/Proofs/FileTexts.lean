import BitmapFont.Proofs.FileSystem.SameTree
import BitmapFont.Proofs.Recompilation
import BitmapFont.Proofs.Text.DecodedLines

/-!
# Texts of files

A compilation sees only the texts of files. They are decoded line by line, and a byte order mark at
the start of a file is not part of its text.

## Main definitions

- `FileSystem.SameTexts` — whether two file systems have files of the same text
- `Compilation.AgreesExcept` — whether two compilations have the same outcome
-/

namespace BitmapFont

open FileSystem (Naming AgreeExcept SameTree SameChange)

/-- Whether two file systems have the same tree, with files of the same text. -/
structure FileSystem.SameTexts (fs fs' : FileSystem) : Prop extends SameTree fs fs' where
  texts : ∀ {place : Location} {old new : List UInt8}, fs.entry? place = some (.file old) →
    fs'.entry? place = some (.file new) → Text.decodeFile new = Text.decodeFile old

/-- Whether two compilations have the same outcome, and the same image if there is one. The files
may differ at one place from the beginning. -/
structure Compilation.AgreesExcept (place : Location) (before after : Compilation) : Prop where
  result : after.result = before.result
  session : after.session = before.session
  log : after.log = before.log
  files : AgreeExcept place before.files after.files
  image : ∀ report, before.result = .ok report → ∃ image,
    before.files.read report.output = .ok image ∧ after.files.read report.output = .ok image

variable {fs fs' : FileSystem} {place : Location} {content : List UInt8}

/-- A file can be given other content of the same text. -/
theorem FileSystem.sameTexts_put (file : fs.entry? place = some (.file content))
    {new : List UInt8} (text : Text.decodeFile new = Text.decodeFile content) :
    SameTexts fs (fs.put place new) := by
  refine ⟨sameTree_put file new, ?_⟩
  intro other before after found found'
  rw [entry?_put (mayHold_of_file file)] at found'
  split at found'
  case isTrue here =>
    rw [here, file] at found
    obtain rfl := Entry.file.inj (Option.some.inj found)
    obtain rfl := Entry.file.inj (Option.some.inj found')
    exact text
  case isFalse =>
    rw [found] at found'
    rw [Entry.file.inj (Option.some.inj found')]

namespace FileSystem.SameTexts

variable (same : SameTexts fs fs')
include same

theorem readText_eq : readText fs' = readText fs := by
  funext path
  unfold readText read
  rw [same.walk_eq]
  cases fs.walk path with
  | error e => rfl
  | ok place =>
    simp only [bind, Except.bind]
    cases before : fs.entry? place with
    | none =>
      have absent : fs'.entry? place = none := by
        rw [← Option.not_isSome_iff_eq_none, same.isSome_eq, before]
        exact Bool.false_ne_true
      rw [absent]
    | some entry =>
      cases entry with
      | directory => rw [(same.directory_iff place).2 before]
      | file old =>
        obtain ⟨new, after⟩ := same.exists_file before
        rw [after]
        exact congrArg Except.ok (same.texts before after)

theorem isFile_eq : fs'.isFile = fs.isFile := by
  have told (fs : FileSystem) (path : Path) : fs.isFile path = (readText fs path).isOk := by
    unfold isFile readText
    cases fs.read path <;> rfl
  funext path
  rw [told, told, same.readText_eq]

theorem resolve_eq (directives : Directives) (projectPath workingDir : Path) :
    Project.resolve directives projectPath workingDir fs' =
      Project.resolve directives projectPath workingDir fs := by
  apply Project.resolve_congr_files
  simp only [Project.locate, same.isFile_eq]

theorem prepare_eq (r : CompileRequest) : r.prepare fs' = r.prepare fs := by
  simp only [CompileRequest.prepare, same.readText_eq, same.resolve_eq, same.contains_eq]

end FileSystem.SameTexts

/-- A job does not depend on what the files hold, except that they are there. -/
theorem Job.run_of_sameTree (same : SameTree fs fs') (job : Job) (naming : Naming)
    (used : IndexSet) :
    (job.run naming used fs').result = (job.run naming used fs).result ∧
      (job.run naming used fs').notes = (job.run naming used fs).notes ∧
      (job.run naming used fs').used = (job.run naming used fs).used ∧
      (job.run naming used fs').log = (job.run naming used fs).log ∧
      SameChange fs fs' (job.run naming used fs).files (job.run naming used fs').files := by
  unfold run
  dsimp only
  split
  case h_1 => exact ⟨rfl, rfl, rfl, rfl, .none⟩
  case h_2 image _ =>
    obtain ⟨result, temporary, change⟩ := same.replace_eq naming job.output image
    rw [result, temporary]
    exact ⟨rfl, rfl, rfl, rfl, change⟩

theorem CompileRequest.attempt_of_sameTexts (same : FileSystem.SameTexts fs fs')
    (r : CompileRequest) (naming : Naming) (used : IndexSet) :
    (r.attempt naming used fs').result = (r.attempt naming used fs).result ∧
      (r.attempt naming used fs').notes = (r.attempt naming used fs).notes ∧
      (r.attempt naming used fs').used = (r.attempt naming used fs).used ∧
      (r.attempt naming used fs').log = (r.attempt naming used fs).log ∧
      SameChange fs fs' (r.attempt naming used fs).files (r.attempt naming used fs').files := by
  cases prepared : (r.prepare fs).result with
  | error e =>
    rw [attempt_of_error prepared, attempt_of_error (same.prepare_eq r ▸ prepared), same.prepare_eq]
    exact ⟨rfl, rfl, rfl, rfl, .none⟩
  | ok job =>
    obtain ⟨result, notes, inUse, log, change⟩ := job.run_of_sameTree same.toSameTree naming used
    rw [attempt_of_prepare prepared, attempt_of_prepare (same.prepare_eq r ▸ prepared),
      same.prepare_eq]
    dsimp only
    rw [result, notes, inUse, log]
    exact ⟨rfl, rfl, rfl, rfl, change⟩

/-- Only the texts of files matter to what a compilation reports, remarks, logs and writes. -/
theorem compileWith_of_sameTexts (same : FileSystem.SameTexts fs fs') (naming : Naming)
    (r : CompileRequest) (session : Session) :
    (compileWith naming r session fs').result = (compileWith naming r session fs).result ∧
      (compileWith naming r session fs').session = (compileWith naming r session fs).session ∧
      (compileWith naming r session fs').log = (compileWith naming r session fs).log ∧
      SameChange fs fs' (compileWith naming r session fs).files
        (compileWith naming r session fs').files := by
  obtain ⟨result, notes, inUse, log, change⟩ := r.attempt_of_sameTexts same naming session.used
  unfold compileWith
  dsimp only
  rw [result, notes, inUse, log]
  exact ⟨rfl, rfl, rfl, change⟩

/-- A file may be given other content of the same text before a compilation. What is compiled is the
same then, down to the bytes of the image. -/
theorem compileWith_put_of_sameText (file : fs.entry? place = some (.file content))
    {new : List UInt8} (text : Text.decodeFile new = Text.decodeFile content) (naming : Naming)
    (r : CompileRequest) (session : Session) :
    (compileWith naming r session fs).AgreesExcept place
      (compileWith naming r session (fs.put place new)) := by
  have same := FileSystem.sameTexts_put file text
  have apart := FileSystem.agreeExcept_put (FileSystem.mayHold_of_file file) new
  obtain ⟨result, session', log, change⟩ := compileWith_of_sameTexts same naming r session
  refine ⟨result, session', log, same.agreeExcept_of_sameChange change apart, ?_⟩
  intro report succeeded
  have succeeded' := result.trans succeeded
  rw [result_compileWith] at succeeded succeeded'
  rw [files_compileWith, files_compileWith]
  obtain ⟨job, image, _, prepared, rfl, built, replaceable, files⟩ :=
    CompileRequest.exists_of_attempt_eq_ok succeeded
  obtain ⟨job', image', _, prepared', _, built', replaceable', files'⟩ :=
    CompileRequest.exists_of_attempt_eq_ok succeeded'
  rw [same.prepare_eq] at prepared'
  obtain rfl := Except.ok.inj (prepared.symm.trans prepared')
  obtain rfl := Except.ok.inj (built.symm.trans built')
  rw [files, files']
  exact ⟨image, (replaceable.replaces image).read, (replaceable'.replaces image).read⟩

/-- Files are decoded line by line, with one replacement character for each longest damage, and
without the one byte order mark at their start, if they have it. So damage on a line does not change
another line, a second mark is kept, and what is compiled does not change if a file that has no mark
gets one. -/
theorem readText_decodes_lines_and_drops_one_mark :
    (∀ bytes text, Text.decode bytes = text ↔ Text.Decodes bytes text.toList) ∧
    (∀ d₁ d₂, Text.decode (d₁ ++ [0x0A] ++ d₂) = Text.decode d₁ ++ "\n" ++ Text.decode d₂) ∧
    (∀ s : String, Text.decode s.toUTF8.data.toList = s) ∧
    (∀ fs path d, FileSystem.read fs path = .ok (Text.markBytes ++ d) →
      readText fs path = .ok (Text.decode d)) ∧
    (∀ fs path d, FileSystem.read fs path = .ok d → ¬ Text.markBytes <+: d →
      readText fs path = .ok (Text.decode d)) ∧
    (∀ fs path d, FileSystem.read fs path = .ok (Text.markBytes ++ (Text.markBytes ++ d)) →
      readText fs path = .ok ("\uFEFF" ++ Text.decode d)) ∧
    (∀ fs path fs' path' parts others, (∀ line ∈ parts ++ others, 0x0A ∉ line) →
      others.length = parts.length →
      FileSystem.read fs path = .ok ([0x0A].intercalate parts) →
      FileSystem.read fs' path' = .ok ([0x0A].intercalate others) →
      ∃ text text', readText fs path = .ok text ∧ readText fs' path' = .ok text' ∧
        ∀ i : Nat, others[i]? = parts[i]? →
          (Text.lines text'.toList)[i]? = (Text.lines text.toList)[i]?) ∧
    ∀ naming r session fs place content, FileSystem.entry? fs place = some (.file content) →
      ¬ Text.markBytes <+: content →
      (compileWith naming r session fs).AgreesExcept place
        (compileWith naming r session (fs.put place (Text.markBytes ++ content))) := by
  refine ⟨fun bytes text => Text.decode_eq_iff, Text.decode_append_lineFeed, Text.decode_toUTF8,
    ?_, ?_, ?_, ?_, ?_⟩
  · intro fs path d found
    rw [readText_of_read found, Text.decodeFile_markBytes_append]
  · intro fs path d found unmarked
    rw [readText_of_read found, Text.decodeFile_of_unmarked unmarked]
  · intro fs path d found
    rw [readText_of_read found, Text.decodeFile_markBytes_append, Text.decode_markBytes_append]
  · intro fs path fs' path' parts others single count found found'
    exact ⟨_, _, readText_of_read found, readText_of_read found',
      fun i same => Text.getElem?_lines_decodeFile single count same⟩
  · intro naming r session fs place content file unmarked
    apply compileWith_put_of_sameText file
    rw [Text.decodeFile_markBytes_append, Text.decodeFile_of_unmarked unmarked]

/-- A character that breaks off before a line feed leaves the next line alone, two marks leave one,
and the same font is compiled from a project file with a mark and without. -/
theorem readText_decodes_lines_and_drops_one_mark_truncated :
    let content (text : String) : List UInt8 := text.toList.map fun c => UInt8.ofNat c.toNat
    let text := "CHARSET=ASCII\nFONT_WIDTH=8\nFONT_HEIGHT=1\nFONT_FILE=g"
    let fs : FileSystem :=
      ⟨[(["p"], .file (content text)), (["g"], .file (content "A=00000001")),
        (["twice"], .file (Text.markBytes ++ (Text.markBytes ++ [0x41]))),
        (["broken"], .file [0xE2, 0x82, 0x0A, 0x41]), (["empty"], .file [0x0A, 0x41])], [],
        by decide⟩
    let marked := fs.put ["p"] (Text.markBytes ++ content text)
    let r : CompileRequest := ⟨⟨"p"⟩, none, none⟩
    let before := compileWith FileSystem.firstFreeName r .empty fs
    let after := compileWith FileSystem.firstFreeName r .empty marked
    Text.decode [0xE2, 0x82, 0x0A, 0x41] = "\uFFFD\nA" ∧
      readText fs ⟨"p"⟩ = .ok text ∧ readText marked ⟨"p"⟩ = .ok text ∧
      readText fs ⟨"twice"⟩ = .ok "\uFEFFA" ∧
      (∃ empty broken, readText fs ⟨"empty"⟩ = .ok empty ∧ readText fs ⟨"broken"⟩ = .ok broken ∧
        (Text.lines broken.toList)[1]? = (Text.lines empty.toList)[1]?) ∧
      after.result = .ok ⟨⟨"p.bff"⟩, "FONT", ['A'], 17⟩ ∧ after.session = before.session ∧
      ∃ image, before.files.read ⟨"p.bff"⟩ = .ok image ∧
        after.files.read ⟨"p.bff"⟩ = .ok image := by
  intro content text fs marked r before after
  obtain ⟨_, feed, _, drop, keep, second, lines, compiled⟩ :=
    readText_decodes_lines_and_drops_one_mark
  have unmarked : ¬ Text.markBytes <+: content text := by decide
  have succeeded : before.result = .ok ⟨⟨"p.bff"⟩, "FONT", ['A'], 17⟩ := by decide +kernel
  have plain : Text.decode (content text) = text := by decide +kernel
  have letter : Text.decode [0x41] = "A" := by decide +kernel
  have broken : Text.decode [0xE2, 0x82] = "\uFFFD" := by decide +kernel
  have joined : Text.decode [0xE2, 0x82, 0x0A, 0x41] = "\uFFFD\nA" := by
    have parts := feed [0xE2, 0x82] [0x41]
    rw [broken, letter] at parts
    exact parts
  have agrees := compiled FileSystem.firstFreeName r .empty fs ["p"] (content text) (by decide) unmarked
  have image := agrees.image _ succeeded
  refine ⟨joined, ?_, ?_, ?_, ?_, agrees.result.trans succeeded, agrees.session, image⟩
  · rw [keep fs ⟨"p"⟩ (content text) (by decide) unmarked, plain]
  · rw [drop marked ⟨"p"⟩ (content text) (by decide), plain]
  · rw [second fs ⟨"twice"⟩ [0x41] (by decide), letter]
    rfl
  · obtain ⟨empty, broken, found, found', same⟩ :=
      lines fs ⟨"empty"⟩ fs ⟨"broken"⟩ [[], [0x41]] [[0xE2, 0x82], [0x41]] (by decide) rfl
        (by decide) (by decide)
    exact ⟨empty, broken, found, found', same 1 rfl⟩

end BitmapFont
