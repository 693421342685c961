import BitmapFont.Proofs.GlyphFile
import BitmapFont.Proofs.Project
import BitmapFont.Proofs.RowWidth
import BitmapFont.Proofs.Text.Numerals
import BitmapFont.Proofs.Text.UpperCase

/-!
# What a project is resolved to

A project must have a glyph source, a character set, a width and a height. They are settled in this
order, the first that cannot be settled is the error, and the keys after it play no part. The color
and the name have replacements for what cannot be used.

## Main definitions

- `Project.Describes` — the project that directives describe
- `Project.Refuses` — why the value of a key cannot be settled
- `Project.requiredKeys` — the keys that must be settled, in their order
- `ProjectError.About` — the errors that name a key
-/

namespace BitmapFont

open RowWidth (exists_bits_iff ofBits?_eq_none_iff)
open Text (WritesByte byte?_eq_some_iff byte?_eq_none_iff)

/-- Whether an error tells that the value of a key is missing or cannot be used. -/
inductive ProjectError.About : Project.Key → ProjectError → Prop
  | missing (key : Project.Key) : About key (.missing key.name)
  | notByte (key : Project.Key) (value : String) : About key (.notByte key.name value)
  | unsupportedCharset (name : String) : About .charset (.unsupportedCharset name)
  | unsupportedWidth (bits : Nat) : About .fontWidth (.unsupportedWidth bits)

namespace Charset

theorem mem_all (charset : Charset) : charset ∈ all := by
  cases charset
  decide

theorem name_injective {charset charset' : Charset} (h : charset.name = charset'.name) :
    charset = charset' := by
  cases charset
  cases charset'
  rfl

/-- A character set is found by every name whose upper case is its own. -/
theorem ofName?_eq_some_iff {name : String} {charset : Charset} :
    ofName? name = some charset ↔ charset.name = Text.upperCase name := by
  constructor
  · intro found
    exact beq_iff_eq.1 (List.find?_some found :)
  · intro named
    have found : (ofName? name).isSome :=
      List.find?_isSome.2 ⟨charset, mem_all charset, beq_iff_eq.2 named⟩
    obtain ⟨charset', hcharset'⟩ := Option.isSome_iff_exists.1 found
    have named' : charset'.name = Text.upperCase name := beq_iff_eq.1 (List.find?_some hcharset' :)
    rw [hcharset', name_injective (named'.trans named.symm)]

theorem ofName?_eq_none_iff {name : String} :
    ofName? name = none ↔ ∀ charset ∈ all, charset.name ≠ Text.upperCase name := by
  simp only [ofName?, List.find?_eq_none, beq_iff_eq, ne_eq]

/-- A name is found as its upper case is. -/
theorem ofName?_upperCase (name : String) : ofName? (Text.upperCase name) = ofName? name := by
  rw [ofName?, Text.upperCase_upperCase, ofName?]

end Charset

namespace Project

/-- The component of a color that the value of a key tells. -/
inductive TellsComponent : Option String → UInt8 → Prop
  | given {value : String} {b : UInt8} (written : WritesByte value.toList b) :
    TellsComponent (some value) b
  | unusable {value : String} (noByte : ∀ b, ¬ WritesByte value.toList b) :
    TellsComponent (some value) 255
  | absent : TellsComponent none 255

/-- The character that is stored for a character of a name. -/
inductive StoredAs : Char → Char → Prop
  | kept {c : Char} (ascii : c.toNat < 128) (nonzero : c ≠ '\x00') : StoredAs c c
  | replaced {c : Char} (unstorable : 128 ≤ c.toNat ∨ c = '\x00') : StoredAs c '?'

/-- Whether directives describe a project. -/
structure Describes (directives : Directives) (projectPath workingDir : Path) (fs : FileSystem)
    (project : Project) : Prop where
  glyphFile : Finds directives projectPath workingDir fs project.glyphFile
  charset : ∃ name, value? directives .charset = some name ∧
    project.settings.charset.name = Text.upperCase name
  width : ∃ value b, value? directives .fontWidth = some value ∧ WritesByte value.toList b ∧
    project.settings.width.bits = b.toNat
  height : ∃ value, value? directives .fontHeight = some value ∧
    WritesByte value.toList project.settings.height
  red : TellsComponent (value? directives .red) project.settings.color.red
  green : TellsComponent (value? directives .green) project.settings.color.green
  blue : TellsComponent (value? directives .blue) project.settings.color.blue
  name : List.Forall₂ StoredAs ((value? directives .fontName).getD "FONT").toList
    project.settings.name.toList

/-- The keys that must be settled, in the order in which they are. -/
def requiredKeys : List Key := [.fontFile, .charset, .fontWidth, .fontHeight]

/-- Why the value of a key cannot be settled. -/
inductive Refuses (directives : Directives) (projectPath workingDir : Path) (fs : FileSystem) :
    Key → ProjectError → Prop
  | glyphFile {e : ProjectError} (h : NotLocated directives projectPath workingDir fs e) :
    Refuses directives projectPath workingDir fs .fontFile e
  | missing {key : Key} (among : key ∈ [.charset, .fontWidth, .fontHeight])
      (absent : value? directives key = none) :
    Refuses directives projectPath workingDir fs key (.missing key.name)
  | charset {name : String} (given : value? directives .charset = some name)
      (unknown : ∀ charset ∈ Charset.all, charset.name ≠ Text.upperCase name) :
    Refuses directives projectPath workingDir fs .charset
      (.unsupportedCharset (Text.upperCase name))
  | notByte {key : Key} {value : String} (among : key ∈ [.fontWidth, .fontHeight])
      (given : value? directives key = some value) (noByte : ∀ b, ¬ WritesByte value.toList b) :
    Refuses directives projectPath workingDir fs key (.notByte key.name value)
  | width {value : String} {b : UInt8} (given : value? directives .fontWidth = some value)
      (written : WritesByte value.toList b) (unsupported : b.toNat ∉ [8, 16, 32, 64]) :
    Refuses directives projectPath workingDir fs .fontWidth (.unsupportedWidth b.toNat)

variable {directives : Directives} {projectPath workingDir : Path} {fs : FileSystem}
  {e : ProjectError} {key : Key}

/-! ### Required values -/

theorem result_required (directives : Directives) (key : Key) :
    (required directives key).result =
      (value? directives key).elim (.error (.missing key.name)) .ok := by
  unfold required
  cases value? directives key with
  | none => rfl
  | some value => rfl

theorem result_requiredByte (directives : Directives) (key : Key) :
    (requiredByte directives key).result = (required directives key).result >>= fun value =>
      (Text.byte? value.toList).elim (.error (.notByte key.name value)) .ok := by
  rw [requiredByte, Noted.result_bind]
  refine bind_congr fun value => ?_
  cases Text.byte? value.toList with
  | none => rfl
  | some b => rfl

theorem result_charset (directives : Directives) :
    (charset directives).result = (required directives .charset).result >>= fun name =>
      (Charset.ofName? name).elim (.error (.unsupportedCharset (Text.upperCase name))) .ok := by
  rw [charset, Noted.result_bind]
  refine bind_congr fun name => ?_
  dsimp only
  rw [Charset.ofName?_upperCase]
  cases Charset.ofName? name with
  | none => rfl
  | some found => rfl

theorem result_width (directives : Directives) :
    (width directives).result = (requiredByte directives .fontWidth).result >>= fun bits =>
      (RowWidth.ofBits? bits.toNat).elim (.error (.unsupportedWidth bits.toNat)) .ok := by
  rw [width, Noted.result_bind]
  refine bind_congr fun bits => ?_
  cases RowWidth.ofBits? bits.toNat with
  | none => rfl
  | some found => rfl

theorem required_eq_ok_iff {value : String} :
    (required directives key).result = .ok value ↔ value? directives key = some value := by
  rw [result_required, elim_eq_ok_iff]

theorem required_eq_error_iff :
    (required directives key).result = .error e ↔
      value? directives key = none ∧ e = .missing key.name := by
  rw [result_required, elim_eq_error_iff]

/-- A required byte is settled if the key has a literal for it. -/
theorem requiredByte_eq_ok_iff {b : UInt8} :
    (requiredByte directives key).result = .ok b ↔
      ∃ value, value? directives key = some value ∧ WritesByte value.toList b := by
  simp only [result_requiredByte, bind_eq_ok_iff, required_eq_ok_iff, elim_eq_ok_iff,
    byte?_eq_some_iff]

theorem requiredByte_eq_error_iff :
    (requiredByte directives key).result = .error e ↔
      (value? directives key = none ∧ e = .missing key.name) ∨
        ∃ value, value? directives key = some value ∧ (∀ b, ¬ WritesByte value.toList b) ∧
          e = .notByte key.name value := by
  simp only [result_requiredByte, bind_eq_error_iff, required_eq_error_iff, required_eq_ok_iff,
    elim_eq_error_iff, byte?_eq_none_iff]

/-! ### The settled values -/

theorem charset_eq_ok_iff {found : Charset} :
    (charset directives).result = .ok found ↔
      ∃ name, value? directives .charset = some name ∧ found.name = Text.upperCase name := by
  simp only [result_charset, bind_eq_ok_iff, required_eq_ok_iff, elim_eq_ok_iff,
    Charset.ofName?_eq_some_iff]

theorem charset_eq_error_iff :
    (charset directives).result = .error e ↔
      Refuses directives projectPath workingDir fs .charset e := by
  simp only [result_charset, bind_eq_error_iff, required_eq_error_iff, required_eq_ok_iff,
    elim_eq_error_iff, Charset.ofName?_eq_none_iff]
  constructor
  · rintro (⟨absent, rfl⟩ | ⟨name, given, unknown, rfl⟩)
    · exact .missing (by decide) absent
    · exact .charset given unknown
  · rintro (_ | ⟨_, absent⟩ | ⟨given, unknown⟩ | ⟨among⟩)
    · exact Or.inl ⟨absent, rfl⟩
    · exact Or.inr ⟨_, given, unknown, rfl⟩
    · exact absurd among (by decide)

theorem width_eq_ok_iff {found : RowWidth} :
    (width directives).result = .ok found ↔
      ∃ value b, value? directives .fontWidth = some value ∧ WritesByte value.toList b ∧
        found.bits = b.toNat := by
  simp only [result_width, bind_eq_ok_iff, requiredByte_eq_ok_iff, elim_eq_ok_iff,
    RowWidth.ofBits?_eq_some_iff]
  constructor
  · rintro ⟨b, ⟨value, given, written⟩, bits⟩
    exact ⟨value, b, given, written, bits⟩
  · rintro ⟨value, b, given, written, bits⟩
    exact ⟨b, ⟨value, given, written⟩, bits⟩

theorem width_eq_error_iff :
    (width directives).result = .error e ↔
      Refuses directives projectPath workingDir fs .fontWidth e := by
  simp only [result_width, bind_eq_error_iff, requiredByte_eq_error_iff, requiredByte_eq_ok_iff,
    elim_eq_error_iff, ofBits?_eq_none_iff]
  constructor
  · rintro ((⟨absent, rfl⟩ | ⟨value, given, noByte, rfl⟩) |
      ⟨b, ⟨value, given, written⟩, unsupported, rfl⟩)
    · exact .missing (by decide) absent
    · exact .notByte (by decide) given noByte
    · exact .width given written unsupported
  · rintro (_ | ⟨_, absent⟩ | _ | ⟨_, given, noByte⟩ | ⟨given, written, unsupported⟩)
    · exact Or.inl (Or.inl ⟨absent, rfl⟩)
    · exact Or.inl (Or.inr ⟨_, given, noByte, rfl⟩)
    · exact Or.inr ⟨_, ⟨_, given, written⟩, unsupported, rfl⟩

theorem height_eq_ok_iff {b : UInt8} :
    (height directives).result = .ok b ↔
      ∃ value, value? directives .fontHeight = some value ∧ WritesByte value.toList b := by
  rw [height, Noted.bind_eq_ok_iff, ← requiredByte_eq_ok_iff]
  constructor
  · rintro ⟨found, settled, same⟩
    obtain rfl := Except.ok.inj same
    exact settled
  · exact fun settled => ⟨b, settled, rfl⟩

theorem height_eq_error_iff :
    (height directives).result = .error e ↔
      Refuses directives projectPath workingDir fs .fontHeight e := by
  rw [height, Noted.bind_eq_error_iff, requiredByte_eq_error_iff]
  constructor
  · rintro ((⟨absent, rfl⟩ | ⟨value, given, noByte, rfl⟩) | ⟨_, _, impossible⟩)
    · exact .missing (by decide) absent
    · exact .notByte (by decide) given noByte
    · exact nomatch impossible
  · rintro (_ | ⟨_, absent⟩ | _ | ⟨_, given, noByte⟩)
    · exact Or.inl (Or.inl ⟨absent, rfl⟩)
    · exact Or.inl (Or.inr ⟨_, given, noByte, rfl⟩)

/-- Exactly one component is told by the value of a key. -/
theorem colorComponent_eq_ok_iff {b : UInt8} :
    (colorComponent directives key).result = .ok b ↔
      TellsComponent (value? directives key) b := by
  rw [result_colorComponent, Except.ok.injEq]
  cases value? directives key with
  | none =>
    constructor
    · rintro rfl
      exact .absent
    · rintro ⟨⟩
      rfl
  | some value =>
    rw [Option.bind_some]
    cases written : Text.byte? value.toList with
    | none =>
      have noByte := byte?_eq_none_iff.1 written
      constructor
      · rintro rfl
        exact .unusable noByte
      · rintro (found | _)
        · exact absurd found (noByte b)
        · rfl
    | some found =>
      have byte := byte?_eq_some_iff.1 written
      constructor
      · rintro rfl
        exact .given byte
      · rintro (other | noByte)
        · exact Option.some.inj (written.symm.trans (byte?_eq_some_iff.2 other))
        · exact absurd byte (noByte found)

theorem color_eq_ok_iff {c : Color} :
    (color directives).result = .ok c ↔
      TellsComponent (value? directives .red) c.red ∧
        TellsComponent (value? directives .green) c.green ∧
          TellsComponent (value? directives .blue) c.blue := by
  simp only [color, Noted.bind_eq_ok_iff, colorComponent_eq_ok_iff]
  constructor
  · rintro ⟨red, hred, green, hgreen, blue, hblue, same⟩
    obtain rfl := Except.ok.inj same
    exact ⟨hred, hgreen, hblue⟩
  · rintro ⟨red, green, blue⟩
    exact ⟨_, red, _, green, _, blue, rfl⟩

theorem storedAs_iff {c stored : Char} :
    StoredAs c stored ↔ (if c.toNat < 128 ∧ c ≠ '\x00' then c else '?') = stored := by
  by_cases storable : c.toNat < 128 ∧ c ≠ '\x00'
  · rw [if_pos storable]
    constructor
    · rintro (_ | wide | nul)
      · rfl
      · exact absurd storable.1 (Nat.not_lt.2 wide)
      · exact absurd nul storable.2
    · rintro rfl
      exact .kept storable.1 storable.2
  · rw [if_neg storable]
    constructor
    · rintro (⟨ascii, nonzero⟩ | _)
      · exact absurd ⟨ascii, nonzero⟩ storable
      · rfl
    · rintro rfl
      refine .replaced ?_
      rwa [not_and_or, Nat.not_lt, ne_eq, not_not] at storable

/-- A name is stored character by character. -/
theorem storedName_eq_iff {name stored : String} :
    storedName name = stored ↔ List.Forall₂ StoredAs name.toList stored.toList := by
  have pointwise : StoredAs = fun c stored =>
      (if c.toNat < 128 ∧ c ≠ '\x00' then c else '?') = stored := by
    funext c stored
    exact propext storedAs_iff
  rw [pointwise, ← List.forall₂_map_left_iff, List.forall₂_eq_eq_eq, storedName,
    ← String.toList_inj, String.toList_ofList]

theorem fontName_eq_ok_iff {name : String} :
    (fontName directives).result = .ok name ↔
      List.Forall₂ StoredAs ((value? directives .fontName).getD "FONT").toList name.toList := by
  rw [result_fontName, Except.ok.injEq, storedName_eq_iff]
  rfl

/-! ### The project as a whole -/

/-- A project is resolved if and only if the directives describe it. -/
theorem resolve_eq_ok_iff_describes {project : Project} :
    (resolve directives projectPath workingDir fs).result = .ok project ↔
      Describes directives projectPath workingDir fs project := by
  rw [resolve_eq_ok_iff, locate_eq_ok_iff, charset_eq_ok_iff, width_eq_ok_iff, height_eq_ok_iff,
    color_eq_ok_iff, fontName_eq_ok_iff]
  constructor
  · rintro ⟨glyphFile, charset, width, height, ⟨red, green, blue⟩, name⟩
    exact ⟨glyphFile, charset, width, height, red, green, blue, name⟩
  · rintro ⟨glyphFile, charset, width, height, red, green, blue, name⟩
    exact ⟨glyphFile, charset, width, height, ⟨red, green, blue⟩, name⟩

theorem locate_eq_error_iff_refuses :
    (locate directives projectPath workingDir fs).result = .error e ↔
      Refuses directives projectPath workingDir fs .fontFile e := by
  rw [locate_eq_error_iff]
  constructor
  · exact .glyphFile
  · rintro (notLocated | ⟨among⟩ | _ | ⟨among⟩)
    · exact notLocated
    · exact absurd among (by decide)
    · exact absurd among (by decide)

/-- The first key that cannot be settled is the error. -/
theorem resolve_eq_error_iff :
    (resolve directives projectPath workingDir fs).result = .error e ↔
      ∃ before key after, requiredKeys = before ++ key :: after ∧
        (∀ k ∈ before, ∀ e', ¬ Refuses directives projectPath workingDir fs k e') ∧
          Refuses directives projectPath workingDir fs key e := by
  obtain ⟨c, color⟩ := exists_color directives
  have fontName := result_fontName directives
  have settled {α : Type} {x : Noted ProjectError α} :
      (∀ e', ¬ x.result = .error e') ↔ ∃ a, x.result = .ok a := exists_ok_iff.symm
  -- The four keys are unfolded one by one; the color and the name, which follow, cannot fail.
  have nothing : ¬ ∃ before key after, ([] : List Key) = before ++ key :: after ∧
      (∀ k ∈ before, ∀ e', ¬ Refuses directives projectPath workingDir fs k e') ∧
        Refuses directives projectPath workingDir fs key e := by
    rintro ⟨before, key, after, split, _⟩
    exact List.append_ne_nil_of_right_ne_nil _ (List.cons_ne_nil _ _) split.symm
  simp only [requiredKeys, exists_split_cons_iff, nothing, and_false, or_false,
    ← locate_eq_error_iff_refuses, ← charset_eq_error_iff, ← width_eq_error_iff,
    ← height_eq_error_iff, settled]
  simp only [resolve, Noted.bind_eq_error_iff, Noted.pure_eq, color, fontName, reduceCtorEq,
    and_false, exists_false, or_false, exists_and_right]

theorem Refuses.about (h : Refuses directives projectPath workingDir fs key e) :
    NotLocated directives projectPath workingDir fs e ∨ e.About key := by
  cases h with
  | glyphFile notLocated => exact Or.inl notLocated
  | missing => exact Or.inr (.missing key)
  | charset => exact Or.inr (.unsupportedCharset _)
  | notByte => exact Or.inr (.notByte key _)
  | width => exact Or.inr (.unsupportedWidth _)

/-- A project that is not resolved has no glyph source, or the error names one of its keys. -/
theorem resolve_error_cases
    (h : (resolve directives projectPath workingDir fs).result = .error e) :
    NotLocated directives projectPath workingDir fs e ∨ ∃ key, e.About key := by
  obtain ⟨_, key, _, _, _, refused⟩ := resolve_eq_error_iff.1 h
  exact refused.about.imp_right fun about => ⟨key, about⟩

/-- A project is described if each required key can be settled, whatever the other keys are. -/
theorem exists_describes_iff :
    (∃ project, Describes directives projectPath workingDir fs project) ↔
      (∃ path, Finds directives projectPath workingDir fs path) ∧
      (∃ name, value? directives .charset = some name ∧
        ∃ charset ∈ Charset.all, charset.name = Text.upperCase name) ∧
      (∃ value b, value? directives .fontWidth = some value ∧ WritesByte value.toList b ∧
        b.toNat ∈ [8, 16, 32, 64]) ∧
      ∃ value b, value? directives .fontHeight = some value ∧ WritesByte value.toList b := by
  simp only [← exists_bits_iff]
  constructor
  · rintro ⟨project, h⟩
    obtain ⟨name, charsetGiven, named⟩ := h.charset
    obtain ⟨width, b, widthGiven, written, bits⟩ := h.width
    obtain ⟨height, heightGiven, heightWritten⟩ := h.height
    exact ⟨⟨_, h.glyphFile⟩, ⟨name, charsetGiven, _, Charset.mem_all _, named⟩,
      ⟨width, b, widthGiven, written, _, bits⟩, ⟨height, _, heightGiven, heightWritten⟩⟩
  · rintro ⟨⟨path, found⟩, ⟨name, charsetGiven, charset, _, named⟩,
      ⟨width, b, widthGiven, written, w, bits⟩, ⟨height, b', heightGiven, heightWritten⟩⟩
    obtain ⟨c, color⟩ := exists_color directives
    obtain ⟨red, green, blue⟩ := color_eq_ok_iff.1 color
    exact ⟨⟨⟨charset, w, b', c, _⟩, path⟩, found, ⟨name, charsetGiven, named⟩,
      ⟨width, b, widthGiven, written, bits⟩, ⟨height, heightGiven, heightWritten⟩, red, green, blue,
      fontName_eq_ok_iff.1 (result_fontName directives)⟩

section Congruence

variable {directives' : Directives}

theorem charset_of_same (same : value? directives' .charset = value? directives .charset) :
    charset directives' = charset directives := by
  simp only [charset, required, same]

theorem width_of_same (same : value? directives' .fontWidth = value? directives .fontWidth) :
    width directives' = width directives := by
  simp only [width, requiredByte, required, same]

theorem height_of_same (same : value? directives' .fontHeight = value? directives .fontHeight) :
    height directives' = height directives := by
  simp only [height, requiredByte, required, same]

/-- The keys after one that cannot be settled play no part, neither in the error nor in what is
remarked. -/
theorem resolve_of_same_required {before after : List Key}
    (split : requiredKeys = before ++ key :: after)
    (refused : Refuses directives projectPath workingDir fs key e)
    (same : ∀ k ∈ before ++ [key], value? directives' k = value? directives k) :
    resolve directives' projectPath workingDir fs =
      resolve directives projectPath workingDir fs := by
  -- Each key up to the refused one is settled in the same way, and nothing follows that one.
  have first : ∃ before key after, requiredKeys = before ++ key :: after ∧
      (∀ k ∈ before, value? directives' k = value? directives k) ∧
        value? directives' key = value? directives key ∧
          Refuses directives projectPath workingDir fs key e :=
    ⟨before, key, after, split, fun k hk => same k (List.mem_append_left _ hk),
      same key (List.mem_append_right _ (List.mem_singleton.2 rfl)), refused⟩
  rw [requiredKeys, exists_split_cons_iff, exists_split_cons_iff, exists_split_cons_iff,
    exists_split_cons_iff] at first
  rw [resolve, resolve]
  obtain ⟨same, refused⟩ | ⟨same, rest⟩ := first
  · rw [locate_of_same_fontFile same]
    refine Noted.bind_congr fun _ settled => ?_
    exact absurd settled (ne_ok_of_error (locate_eq_error_iff_refuses.2 refused) _)
  rw [locate_of_same_fontFile same]
  refine Noted.bind_congr fun _ _ => ?_
  obtain ⟨same, refused⟩ | ⟨same, rest⟩ := rest
  · rw [charset_of_same same]
    refine Noted.bind_congr fun _ settled => ?_
    exact absurd settled (ne_ok_of_error (charset_eq_error_iff.2 refused) _)
  rw [charset_of_same same]
  refine Noted.bind_congr fun _ _ => ?_
  obtain ⟨same, refused⟩ | ⟨same, rest⟩ := rest
  · rw [width_of_same same]
    refine Noted.bind_congr fun _ settled => ?_
    exact absurd settled (ne_ok_of_error (width_eq_error_iff.2 refused) _)
  rw [width_of_same same]
  refine Noted.bind_congr fun _ _ => ?_
  obtain ⟨same, refused⟩ | ⟨_, _, _, _, impossible, _⟩ := rest
  · rw [height_of_same same]
    refine Noted.bind_congr fun _ settled => ?_
    exact absurd settled (ne_ok_of_error (height_eq_error_iff.2 refused) _)
  · simp at impossible

end Congruence

/-- A project is resolved if and only if a glyph source is found, the upper case of the given
character set is the name of one, the width is a literal for one of the four widths and the height
is a literal. It then is the project that the directives describe. Otherwise the first key that
cannot be settled is the error, and neither the error nor the remarks depend on the keys after it.
-/
theorem resolve_first_refusal (directives : Directives) (projectPath workingDir : Path)
    (fs : FileSystem) :
    ((∃ project, (resolve directives projectPath workingDir fs).result = .ok project) ↔
      (∃ path, Finds directives projectPath workingDir fs path) ∧
      (∃ name, value? directives .charset = some name ∧
        ∃ charset ∈ Charset.all, charset.name = Text.upperCase name) ∧
      (∃ value b, value? directives .fontWidth = some value ∧ WritesByte value.toList b ∧
        b.toNat ∈ [8, 16, 32, 64]) ∧
      ∃ value b, value? directives .fontHeight = some value ∧ WritesByte value.toList b) ∧
    (∀ project, (resolve directives projectPath workingDir fs).result = .ok project ↔
      Describes directives projectPath workingDir fs project) ∧
    (∀ e, (resolve directives projectPath workingDir fs).result = .error e ↔
      ∃ before key after, requiredKeys = before ++ key :: after ∧
        (∀ k ∈ before, ∀ e', ¬ Refuses directives projectPath workingDir fs k e') ∧
          Refuses directives projectPath workingDir fs key e) ∧
    ∀ before key after e, requiredKeys = before ++ key :: after →
      Refuses directives projectPath workingDir fs key e →
        ∀ directives' : Directives,
          (∀ k ∈ before ++ [key], value? directives' k = value? directives k) →
            resolve directives' projectPath workingDir fs =
              resolve directives projectPath workingDir fs := by
  refine ⟨?_, fun project => resolve_eq_ok_iff_describes, fun e => resolve_eq_error_iff,
    fun before key after e split refused directives' => resolve_of_same_required split refused⟩
  simp only [resolve_eq_ok_iff_describes]
  exact exists_describes_iff

/-- A project with a character set in letters whose upper case is ASCII, a literal with a sign and
zeros, a component that is no byte and a name that is not ASCII. With another width it is refused,
whether or not there is a height. -/
theorem resolve_first_refusal_nine_columns :
    let fs : FileSystem := ⟨[(["p.rbf"], .file [])], [], by decide⟩
    let base : List (String × String) :=
      [("CHARSET", "a\u017Fc\u0131\u0131"), ("FONT_NAME", "\u00E9A")]
    let good : Directives :=
      ⟨base ++ [("FONT_WIDTH", "+016"), ("FONT_HEIGHT", "2"), ("DEFAULT_RGB_R", "256")],
        by decide⟩
    let bad : Directives := ⟨base ++ [("FONT_WIDTH", "9")], by decide⟩
    let bad' : Directives := ⟨base ++ [("FONT_WIDTH", "9"), ("FONT_HEIGHT", "2")], by decide⟩
    let project : Project := ⟨⟨.ascii, .w16, 2, .white, "?A"⟩, ⟨"p.rbf"⟩⟩
    Describes good ⟨"p"⟩ ⟨""⟩ fs project ∧
      Refuses bad ⟨"p"⟩ ⟨""⟩ fs .fontWidth (.unsupportedWidth 9) ∧
      (resolve bad ⟨"p"⟩ ⟨""⟩ fs).result = .error (.unsupportedWidth 9) ∧
      resolve bad' ⟨"p"⟩ ⟨""⟩ fs = resolve bad ⟨"p"⟩ ⟨""⟩ fs := by
  intro fs base good bad bad' project
  have resolved : (resolve good ⟨"p"⟩ ⟨""⟩ fs).result = .ok project := by
    decide +kernel
  have failed : (resolve bad ⟨"p"⟩ ⟨""⟩ fs).result = .error (.unsupportedWidth 9) := by
    decide +kernel
  have given : value? bad .fontWidth = some "9" := by decide +kernel
  have written : WritesByte "9".toList 9 := byte?_eq_some_iff.1 (by decide)
  have refused : Refuses bad ⟨"p"⟩ ⟨""⟩ fs .fontWidth (.unsupportedWidth 9) :=
    .width given written (by decide)
  refine ⟨((resolve_first_refusal good ⟨"p"⟩ ⟨""⟩ fs).2.1 project).1 resolved, refused, failed, ?_⟩
  obtain ⟨-, -, -, unaffected⟩ := resolve_first_refusal bad ⟨"p"⟩ ⟨""⟩ fs
  refine unaffected [.fontFile, .charset] .fontWidth [.fontHeight] _ rfl refused bad' ?_
  decide +kernel

end Project

end BitmapFont
