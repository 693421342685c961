import BitmapFont.Project.Resolution
import BitmapFont.Proofs.Image.Layout
import BitmapFont.Proofs.Outcome

/-!
# What every project has

A project is resolved if each of its values is settled. The color and the name of the font always
are, and a font file can hold the name.
-/

namespace BitmapFont.Project

variable {directives : Directives} {projectPath workingDir : Path} {fs : FileSystem}

/-- A component is the byte that its key gives, or else 255. -/
theorem result_colorComponent (directives : Directives) (key : Key) :
    (colorComponent directives key).result =
      .ok (((value? directives key).bind fun value => Text.byte? value.toList).getD 255) := by
  unfold colorComponent
  cases value? directives key with
  | none => rfl
  | some value =>
    dsimp only [Option.bind_some]
    cases Text.byte? value.toList with
    | none => rfl
    | some b => rfl

/-- The color of a project is always settled. -/
theorem exists_color (directives : Directives) : ∃ c, (color directives).result = .ok c := by
  simp only [color, Noted.bind_eq_ok_iff, result_colorComponent]
  exact ⟨_, _, rfl, _, rfl, _, rfl, rfl⟩

theorem result_requestedName (directives : Directives) :
    (requestedName directives).result = .ok ((value? directives .fontName).getD defaultName) := by
  unfold requestedName
  cases value? directives .fontName with
  | none => rfl
  | some name => rfl

/-- The name of the font is always settled, and then it is a stored name. -/
theorem result_fontName (directives : Directives) :
    (fontName directives).result =
      .ok (storedName ((value? directives .fontName).getD defaultName)) := by
  refine Noted.bind_eq_ok_iff.2 ⟨_, result_requestedName directives, ?_⟩
  dsimp only
  split
  · rfl
  · rfl

/-- A stored name has no character that a font file cannot hold. -/
theorem storable_storedName (name : String) : Storable (storedName name) := by
  intro c hc
  rw [storedName, String.toList_ofList] at hc
  obtain ⟨d, _, rfl⟩ := List.mem_map.1 hc
  split
  case isTrue kept => exact kept
  case isFalse => decide

/-- A project is resolved if each of its values is settled. -/
theorem resolve_eq_ok_iff {project : Project} :
    (resolve directives projectPath workingDir fs).result = .ok project ↔
      (locate directives projectPath workingDir fs).result = .ok project.glyphFile ∧
        (charset directives).result = .ok project.settings.charset ∧
        (width directives).result = .ok project.settings.width ∧
        (height directives).result = .ok project.settings.height ∧
        (color directives).result = .ok project.settings.color ∧
        (fontName directives).result = .ok project.settings.name := by
  simp only [resolve, Noted.bind_eq_ok_iff]
  constructor
  · rintro ⟨_, located, _, charset, _, width, _, height, _, color, _, name, same⟩
    obtain rfl := Except.ok.inj same
    exact ⟨located, charset, width, height, color, name⟩
  · rintro ⟨located, charset, width, height, color, name⟩
    exact ⟨_, located, _, charset, _, width, _, height, _, color, _, name, rfl⟩

/-- A font file can hold the name of a resolved project. -/
theorem storable_name_of_resolve {project : Project}
    (h : (resolve directives projectPath workingDir fs).result = .ok project) :
    Storable project.settings.name := by
  obtain ⟨_, _, _, _, _, named⟩ := resolve_eq_ok_iff.1 h
  rw [Except.ok.inj (named.symm.trans (result_fontName directives))]
  exact storable_storedName _

end BitmapFont.Project
