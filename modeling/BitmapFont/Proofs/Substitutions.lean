import BitmapFont.Proofs.GlyphLookup
import BitmapFont.Proofs.Remarks
import BitmapFont.Proofs.Resolution

/-!
# Substitutions

When a project is settled, other values take the place of some that are missing or cannot be used.
Each substitution is warned about and nothing else is, so a project that is settled without a
warning has every value that its directives give.

## Main definitions

- `Noted.warningCount` — the number of warnings of a computation
- `Project.Substitution` — what may be replaced when a project is settled
- `Project.Substituted` — whether it is
- `Project.Reflects` — a project has every value that its directives give
-/

namespace BitmapFont

open Text (WritesByte byte?_eq_none_iff)

namespace Noted

variable {ε α β : Type}

/-- The number of warnings of a computation. -/
def warningCount (x : Noted ε α) : Nat :=
  x.notes.countP (·.level == .warning)

/-- The warnings of two steps add up. -/
theorem warningCount_bind {x : Noted ε α} {a : α} (h : x.result = .ok a)
    (next : α → Noted ε β) :
    (x >>= next).warningCount = x.warningCount + (next a).warningCount := by
  rw [bind_eq_of_ok h, warningCount, List.countP_append, warningCount, warningCount]

theorem warningCount_eq_zero {x : Noted ε α} (h : x.AllNotes (·.level ≠ .warning)) :
    x.warningCount = 0 := by
  rw [warningCount, List.countP_eq_zero]
  intro d hd
  simpa using h d hd

end Noted

namespace Project

/-- What may be replaced when a project is settled: the name of the glyph source, its place, a
component of the color and characters of the name of the font. -/
inductive Substitution
  | glyphFile
  | place
  | component (key : Key)
  | fontName
  deriving DecidableEq

/-- Every substitution, in the order in which they are made. -/
def Substitution.all : List Substitution :=
  [glyphFile, place, component .red, component .green, component .blue, fontName]

/-- Whether something is replaced when a project is settled. -/
inductive Substituted (directives : Directives) (projectPath workingDir : Path) (fs : FileSystem) :
    Substitution → Prop
  | glyphFile (unnamed : Unnamed directives) :
    Substituted directives projectPath workingDir fs .glyphFile
  | place {file : Path} (asked : Asks directives projectPath file)
      (redirects : Redirects fs file (workingDir.join file) (besideProject projectPath file)) :
    Substituted directives projectPath workingDir fs .place
  | component {key : Key} {value : String} (given : value? directives key = some value)
      (noByte : ∀ b, ¬ WritesByte value.toList b) :
    Substituted directives projectPath workingDir fs (.component key)
  | fontName {name : String} (given : value? directives .fontName = some name)
      (unstorable : ∃ c ∈ name.toList, 128 ≤ c.toNat ∨ c = '\x00') :
    Substituted directives projectPath workingDir fs .fontName

/-- Whether a project has every value that directives give. -/
structure Reflects (directives : Directives) (workingDir : Path) (project : Project) : Prop where
  glyphFile : ∀ name, value? directives .fontFile = some name →
    project.glyphFile = workingDir.join ⟨name⟩
  charset : ∀ name, value? directives .charset = some name →
    project.settings.charset.name = Text.upperCase name
  width : ∀ value, value? directives .fontWidth = some value →
    ∃ b, WritesByte value.toList b ∧ project.settings.width.bits = b.toNat
  height : ∀ value, value? directives .fontHeight = some value →
    WritesByte value.toList project.settings.height
  red : ∀ value, value? directives .red = some value →
    WritesByte value.toList project.settings.color.red
  green : ∀ value, value? directives .green = some value →
    WritesByte value.toList project.settings.color.green
  blue : ∀ value, value? directives .blue = some value →
    WritesByte value.toList project.settings.color.blue
  name : ∀ name, value? directives .fontName = some name → project.settings.name = name

variable {directives : Directives} {projectPath workingDir file path : Path} {fs : FileSystem}
  {project : Project} {key : Key} {name : String}

/-! ### When something is replaced -/

theorem storedName_eq_self_iff : storedName name = name ↔ Storable name := by
  constructor
  · intro same
    rw [← same]
    exact storable_storedName name
  · intro storable
    rw [storedName_eq_iff, List.forall₂_same]
    exact fun c hc => .kept (storable c hc).1 (storable c hc).2

theorem not_storable_iff :
    ¬ Storable name ↔ ∃ c ∈ name.toList, 128 ≤ c.toNat ∨ c = '\x00' := by
  simp only [Storable, ne_eq, not_forall, not_and_or, Nat.not_lt, not_not, exists_prop]

theorem substituted_glyphFile_iff :
    Substituted directives projectPath workingDir fs .glyphFile ↔ Unnamed directives := by
  constructor
  · rintro ⟨unnamed⟩
    exact unnamed
  · exact .glyphFile

theorem substituted_place_iff (asked : Asks directives projectPath file) :
    Substituted directives projectPath workingDir fs .place ↔
      Redirects fs file (workingDir.join file) (besideProject projectPath file) := by
  constructor
  · rintro (_ | ⟨asked', redirects⟩)
    rwa [asked'.unique asked]
  · exact .place asked

theorem substituted_component_iff :
    Substituted directives projectPath workingDir fs (.component key) ↔
      ∃ value ∈ value? directives key, Text.byte? value.toList = none := by
  constructor
  · rintro (_ | _ | ⟨given, noByte⟩)
    exact ⟨_, given, byte?_eq_none_iff.2 noByte⟩
  · rintro ⟨value, given, noByte⟩
    exact .component given (byte?_eq_none_iff.1 noByte)

theorem substituted_fontName_iff :
    Substituted directives projectPath workingDir fs .fontName ↔
      ¬ Storable ((value? directives .fontName).getD defaultName) := by
  cases given : value? directives .fontName with
  | none =>
    have usable : Storable defaultName := by decide
    refine iff_of_false ?_ (not_not.2 usable)
    rintro (_ | _ | _ | ⟨given', _⟩)
    exact nomatch given.symm.trans given'
  | some name =>
    rw [Option.getD_some, not_storable_iff]
    constructor
    · rintro (_ | _ | _ | ⟨given', unstorable⟩)
      obtain rfl := Option.some.inj (given.symm.trans given')
      exact unstorable
    · exact .fontName given

instance : Decidable (Unnamed directives) :=
  inferInstanceAs (Decidable (∀ name ∈ value? directives .fontFile, name = ""))

instance {here beside : Path} : Decidable (Redirects fs file here beside) :=
  decidable_of_iff (fs.isFile here = false ∧ file.isAbsolute = false ∧ fs.isFile beside = true ∧
      (FileSystem.maxPathBytes < Text.utf8Length here.text → beside.components ≠ here.components))
    ⟨fun ⟨absent, relative, present, another⟩ => ⟨absent, relative, present, another⟩,
      fun h => ⟨h.absent, h.relative, h.present, h.another⟩⟩

instance : DecidablePred (Substituted directives projectPath workingDir fs)
  | .glyphFile => decidable_of_iff _ substituted_glyphFile_iff.symm
  | .place =>
    match request : (requestedFile directives projectPath).result with
    | .ok _ => decidable_of_iff _ (substituted_place_iff (requestedFile_eq_ok_iff.1 request)).symm
    | .error _ => isFalse fun
      | .place asked _ => nomatch request.symm.trans (requestedFile_eq_ok_iff.2 asked)
  | .component _ => decidable_of_iff _ substituted_component_iff.symm
  | .fontName => decidable_of_iff _ substituted_fontName_iff.symm

/-! ### The warnings of each step -/

/-- Whether something is replaced, as a number. -/
def tally (directives : Directives) (projectPath workingDir : Path) (fs : FileSystem)
    (s : Substitution) : Nat :=
  if Substituted directives projectPath workingDir fs s then 1 else 0

theorem tally_of {s : Substitution} (h : Substituted directives projectPath workingDir fs s) :
    tally directives projectPath workingDir fs s = 1 :=
  if_pos h

theorem tally_of_not {s : Substitution}
    (h : ¬ Substituted directives projectPath workingDir fs s) :
    tally directives projectPath workingDir fs s = 0 :=
  if_neg h

theorem countP_substituted (ss : List Substitution) :
    ss.countP (Substituted directives projectPath workingDir fs) =
      (ss.map (tally directives projectPath workingDir fs)).sum := by
  induction ss with
  | nil => rfl
  | cons s rest ih =>
    simp only [List.countP_cons, decide_eq_true_eq, List.map_cons, List.sum_cons, ih, tally,
      Nat.add_comm]

/-- Asking for a glyph source is warned about if the project names none. -/
theorem warningCount_requestedFile (asked : Asks directives projectPath file) :
    (requestedFile directives projectPath).warningCount =
      tally directives projectPath workingDir fs .glyphFile := by
  obtain ⟨given, nonempty⟩ | ⟨unnamed, goes⟩ := asked
  · have named : ¬ Substituted directives projectPath workingDir fs .glyphFile :=
      fun h => nonempty (substituted_glyphFile_iff.1 h _ given)
    rw [requestedFile_of_named given nonempty, tally_of_not named]
    rfl
  · rw [requestedFile, filter_of_unnamed unnamed, goes, tally_of (.glyphFile unnamed)]
    rfl

/-- Finding a glyph source is warned about if another place is used. -/
theorem warningCount_locate
    (found : (locate directives projectPath workingDir fs).result = .ok path) :
    (locate directives projectPath workingDir fs).warningCount =
      tally directives projectPath workingDir fs .glyphFile +
        tally directives projectPath workingDir fs .place := by
  obtain ⟨file, requested, _⟩ := Noted.bind_eq_ok_iff.1 found
  have asked := requestedFile_eq_ok_iff.1 requested
  rw [← warningCount_requestedFile asked]
  obtain ⟨present, outcome⟩ | ⟨redirects, outcome⟩ | ⟨_, _, outcome⟩ := locate_cases asked
  · have stays : ¬ Substituted directives projectPath workingDir fs .place := by
      intro h
      have absent := ((substituted_place_iff asked).1 h).absent
      exact nomatch absent.symm.trans present
    rw [outcome, Noted.warningCount, List.countP_append, tally_of_not stays]
    rfl
  · rw [outcome, Noted.warningCount, List.countP_append, tally_of (.place asked redirects)]
    rfl
  · rw [outcome] at found
    exact nomatch found

theorem warningCount_charset (directives : Directives) : (charset directives).warningCount = 0 :=
  Noted.warningCount_eq_zero (allNotes_charset (fun _ => nofun) directives)

theorem warningCount_width (directives : Directives) : (width directives).warningCount = 0 :=
  Noted.warningCount_eq_zero (allNotes_width (fun _ => nofun) directives)

theorem warningCount_height (directives : Directives) : (height directives).warningCount = 0 :=
  Noted.warningCount_eq_zero (allNotes_height (fun _ => nofun) directives)

section Replaceable

variable (directives projectPath workingDir fs)

/-- A component of the color is warned about if it is given and no byte. -/
theorem warningCount_colorComponent (key : Key) :
    (colorComponent directives key).warningCount =
      tally directives projectPath workingDir fs (.component key) := by
  rw [colorComponent]
  cases given : value? directives key with
  | none =>
    have kept : ¬ Substituted directives projectPath workingDir fs (.component key) := by
      rw [substituted_component_iff, given]
      exact nofun
    rw [tally_of_not kept]
    rfl
  | some value =>
    dsimp only
    cases written : Text.byte? value.toList with
    | none =>
      rw [tally_of (.component given (byte?_eq_none_iff.1 written))]
      rfl
    | some b =>
      have kept : ¬ Substituted directives projectPath workingDir fs (.component key) := by
        rw [substituted_component_iff, given]
        simp [written]
      rw [tally_of_not kept]
      rfl

theorem warningCount_color :
    (color directives).warningCount =
      tally directives projectPath workingDir fs (.component .red) +
        tally directives projectPath workingDir fs (.component .green) +
          tally directives projectPath workingDir fs (.component .blue) := by
  rw [← warningCount_colorComponent, ← warningCount_colorComponent,
    ← warningCount_colorComponent, color,
    Noted.warningCount_bind (result_colorComponent directives .red),
    Noted.warningCount_bind (result_colorComponent directives .green),
    Noted.warningCount_bind (result_colorComponent directives .blue), Nat.add_assoc]
  rfl

/-- The name of a font is warned about if it is given and a file cannot hold it. -/
theorem warningCount_fontName :
    (fontName directives).warningCount = tally directives projectPath workingDir fs .fontName := by
  have silent : (requestedName directives).warningCount = 0 := by
    rw [requestedName]
    cases value? directives .fontName <;> rfl
  rw [fontName, Noted.warningCount_bind (result_requestedName directives), silent, Nat.zero_add]
  dsimp only
  by_cases storable : Storable ((value? directives .fontName).getD defaultName)
  · rw [tally_of_not (mt substituted_fontName_iff.1 (not_not.2 storable)),
      if_neg (not_not.2 (storedName_eq_self_iff.2 storable))]
    rfl
  · rw [tally_of (substituted_fontName_iff.2 storable),
      if_pos (mt storedName_eq_self_iff.1 storable)]
    rfl

end Replaceable

/-- A project that is settled has one warning for each substitution. -/
theorem warningCount_resolve
    (resolved : (resolve directives projectPath workingDir fs).result = .ok project) :
    (resolve directives projectPath workingDir fs).warningCount =
      Substitution.all.countP (Substituted directives projectPath workingDir fs) := by
  obtain ⟨located, charset, width, height, color, name⟩ := resolve_eq_ok_iff.1 resolved
  rw [resolve, Noted.warningCount_bind located, Noted.warningCount_bind charset,
    Noted.warningCount_bind width, Noted.warningCount_bind height, Noted.warningCount_bind color,
    Noted.warningCount_bind name, warningCount_locate located, warningCount_charset,
    warningCount_width, warningCount_height,
    warningCount_color directives projectPath workingDir fs,
    warningCount_fontName directives projectPath workingDir fs, countP_substituted]
  simp only [Substitution.all, List.map_cons, List.map_nil, List.sum_cons, List.sum_nil,
    Nat.zero_add, Nat.add_assoc]
  rfl

/-! ### What is kept if nothing is replaced -/

theorem Finds.eq_join (found : Finds directives projectPath workingDir fs path)
    (stays : ¬ Substituted directives projectPath workingDir fs .place)
    (given : value? directives .fontFile = some name) (nonempty : name ≠ "") :
    path = workingDir.join ⟨name⟩ := by
  cases found with
  | working asked => rw [Asks.unique (.named given nonempty) asked]
  | beside asked absent relative another present =>
    exact absurd (.place asked ⟨absent, relative, present, fun _ => another⟩) stays

theorem TellsComponent.written {b : UInt8} (told : TellsComponent (value? directives key) b)
    (kept : ¬ Substituted directives projectPath workingDir fs (.component key)) (value : String)
    (given : value? directives key = some value) : WritesByte value.toList b := by
  rw [given] at told
  cases told with
  | given written => exact written
  | unusable noByte => exact absurd (.component given noByte) kept

/-- If nothing is replaced, a project has every value that its directives give. -/
theorem Describes.reflects (described : Describes directives projectPath workingDir fs project)
    (kept : ∀ s ∈ Substitution.all, ¬ Substituted directives projectPath workingDir fs s) :
    Reflects directives workingDir project where
  -- An empty name is none, so that a given one is not empty.
  glyphFile name given := by
    refine described.glyphFile.eq_join (kept _ (by decide)) given fun empty => ?_
    refine kept .glyphFile (by decide) (.glyphFile fun name' given' => ?_)
    rwa [← Option.some.inj (given.symm.trans given')]
  charset name given := by
    obtain ⟨name', given', named⟩ := described.charset
    rwa [Option.some.inj (given.symm.trans given')]
  width value given := by
    obtain ⟨value', b, given', written, bits⟩ := described.width
    obtain rfl := Option.some.inj (given.symm.trans given')
    exact ⟨b, written, bits⟩
  height value given := by
    obtain ⟨value', given', written⟩ := described.height
    rwa [Option.some.inj (given.symm.trans given')]
  red := described.red.written (kept _ (by decide))
  green := described.green.written (kept _ (by decide))
  blue := described.blue.written (kept _ (by decide))
  name name given := by
    have storable := not_not.1 (mt substituted_fontName_iff.2 (kept .fontName (by decide)))
    have stored := storedName_eq_iff.2 described.name
    rw [given, Option.getD_some] at storable stored
    rw [← stored, storedName_eq_self_iff.2 storable]

/-! ### Diagnostics before and after -/

theorem Remark.level_eq {d : Diagnostic} (h : Remark d) : d.level = .info ∨ d.level = .warning := by
  cases h with
  | settled => exact Or.inl rfl
  | noGlyphFile | besideProject | notByte | notStorable => exact Or.inr rfl

theorem filter_notes_resolve {level : Level} (other : level ∈ [Level.debug, .error, .fatal]) :
    (resolve directives projectPath workingDir fs).notes.filter (·.level == level) = [] := by
  rw [List.filter_eq_nil_iff]
  intro d hd
  rw [beq_iff_eq]
  rintro rfl
  obtain info | warning := (remarks_resolve directives projectPath workingDir fs d hd).level_eq
  · rw [info] at other
    exact absurd other (by decide)
  · rw [warning] at other
    exact absurd other (by decide)

/-- When a project is settled, there is one warning for each substitution, and nothing else is
remarked but information. So without a new warning the project has every value that its directives
give. -/
theorem one_warning_for_each_substitution (directives : Directives)
    (projectPath workingDir : Path) (fs : FileSystem) (project : Project) (before : Diagnostics)
    (resolved : (resolve directives projectPath workingDir fs).result = .ok project) :
    let after := before.append (resolve directives projectPath workingDir fs).notes
    (∀ level ∈ [Level.debug, .error, .fatal], after.atLevel level = before.atLevel level) ∧
      (after.atLevel .warning).length = (before.atLevel .warning).length +
        Substitution.all.countP (Substituted directives projectPath workingDir fs) ∧
      (after.atLevel .warning = before.atLevel .warning →
        Reflects directives workingDir project) := by
  intro after
  have warnings : (after.atLevel .warning).length = (before.atLevel .warning).length +
      Substitution.all.countP (Substituted directives projectPath workingDir fs) := by
    rw [Diagnostics.atLevel_append, List.length_append, ← List.countP_eq_length_filter,
      ← warningCount_resolve resolved, Noted.warningCount]
  refine ⟨fun level other => ?_, warnings, fun silent => ?_⟩
  · rw [Diagnostics.atLevel_append, filter_notes_resolve other, List.append_nil]
  · rw [silent, Nat.left_eq_add, List.countP_eq_zero] at warnings
    refine (resolve_eq_ok_iff_describes.1 resolved).reflects fun s hs replaced => ?_
    exact warnings s hs (decide_eq_true replaced)

/-- A project that names no glyph source and has one next to it, two components that are no bytes
and a name that is not ASCII, and one without any of these. -/
theorem one_warning_for_each_substitution_five :
    let fs : FileSystem :=
      ⟨[(["d"], .directory), (["d", "p.rbf"], .file []), (["g.rbf"], .file [])], [], by decide⟩
    let base : List (String × String) :=
      [("CHARSET", "ascii"), ("FONT_WIDTH", "8"), ("FONT_HEIGHT", "1")]
    let replaced : Directives := ⟨base ++ [("DEFAULT_RGB_R", "256"), ("DEFAULT_RGB_B", "-1"),
      ("FONT_NAME", "\u00E9")], by decide⟩
    let kept : Directives := ⟨base ++ [("FONT_FILE", "g.rbf"), ("DEFAULT_RGB_G", "+7"),
      ("FONT_NAME", "A")], by decide⟩
    let notes := (resolve replaced ⟨"d/p.bfp"⟩ ⟨""⟩ fs).notes
    ((Diagnostics.empty.append notes).atLevel .warning).length = 5 ∧
      Reflects kept ⟨""⟩ ⟨⟨.ascii, .w8, 1, ⟨255, 7, 255⟩, "A"⟩, ⟨"g.rbf"⟩⟩ := by
  intro fs base replaced kept notes
  have settled : (resolve replaced ⟨"d/p.bfp"⟩ ⟨""⟩ fs).result =
      .ok ⟨⟨.ascii, .w8, 1, .white, "?"⟩, ⟨"d/p.rbf"⟩⟩ := by
    decide +kernel
  have silent : (resolve kept ⟨"d/p.bfp"⟩ ⟨""⟩ fs).result =
      .ok ⟨⟨.ascii, .w8, 1, ⟨255, 7, 255⟩, "A"⟩, ⟨"g.rbf"⟩⟩ := by
    decide +kernel
  obtain ⟨_, warned, _⟩ := one_warning_for_each_substitution _ _ _ _ _ .empty settled
  obtain ⟨_, _, reflected⟩ := one_warning_for_each_substitution _ _ _ _ _ .empty silent
  refine ⟨warned.trans ?_, reflected ?_⟩
  · decide +kernel
  · decide +kernel

end Project

end BitmapFont
