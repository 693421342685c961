import BitmapFont.Proofs.Resolution
import BitmapFont.Proofs.Text.CaseSources

/-!
# Names of character sets

A name selects a character set if its upper case does. So it can be written with every character
whose upper case is the letter in its place. These are not only those of ASCII: the upper case of the
long s is S, and that of the dotless i is I. No character with a longer upper case is among them.

## Main definitions

- `Charset.asciiLetters` — the characters with which each letter of `ASCII` can be written
- `Charset.SpellsAscii` — the texts that are written with them
-/

namespace BitmapFont

open Text (upperCase upperChar NoExpansionIn upperCase_eq_iff upperChar_eq_singleton_iff)

namespace Charset

/-- The characters with which each letter of the name `ASCII` can be written. -/
def asciiLetters : List (List Char) :=
  [['A', 'a'], ['S', 's', '\u017F'], ['C', 'c'], ['I', 'i', '\u0131'], ['I', 'i', '\u0131']]

/-- Whether a text writes the name `ASCII`: it has five characters, each of them one with which the
letter in its place can be written. -/
def SpellsAscii (s : String) : Prop :=
  List.Forall₂ (· ∈ ·) s.toList asciiLetters

/-- Each letter of the name is the upper case of the characters with which it can be written, and of
no others. -/
theorem upperChar_eq_iff_asciiLetters :
    List.Forall₂ (fun d letters => ∀ c, upperChar c = [d] ↔ c ∈ letters) "ASCII".toList
      asciiLetters := by
  have a := @upperChar_eq_singleton_iff 'A' ['A', 'a'] (by decide) (by decide +kernel)
    (by decide +kernel)
  have s := @upperChar_eq_singleton_iff 'S' ['S', 's', '\u017F'] (by decide) (by decide +kernel)
    (by decide +kernel)
  have c := @upperChar_eq_singleton_iff 'C' ['C', 'c'] (by decide) (by decide +kernel)
    (by decide +kernel)
  have i := @upperChar_eq_singleton_iff 'I' ['I', 'i', '\u0131'] (by decide) (by decide +kernel)
    (by decide +kernel)
  exact .cons a (.cons s (.cons c (.cons i (.cons i .nil))))

theorem noExpansionIn_ascii : NoExpansionIn "ASCII".toList := by
  decide +kernel

/-- The texts whose upper case is the name are told character by character. -/
theorem upperCase_eq_ascii_iff_forall₂ {s : String} :
    upperCase s = "ASCII" ↔
      List.Forall₂ (fun c d => upperChar c = [d]) s.toList "ASCII".toList :=
  upperCase_eq_iff noExpansionIn_ascii

theorem upperCase_eq_ascii_iff {s : String} : upperCase s = "ASCII" ↔ SpellsAscii s := by
  rw [upperCase_eq_ascii_iff_forall₂, SpellsAscii]
  generalize s.toList = chars
  have letters := upperChar_eq_iff_asciiLetters
  generalize "ASCII".toList = name, asciiLetters = places at letters ⊢
  induction letters generalizing chars with
  | nil => simp only [List.forall₂_nil_right_iff]
  | cons letter _ ih => simp only [List.forall₂_cons_right_iff, letter, ih]

theorem ofName?_eq_ascii_iff {s : String} : ofName? s = some .ascii ↔ SpellsAscii s := by
  rw [ofName?_eq_some_iff, ← upperCase_eq_ascii_iff]
  exact eq_comm

theorem exists_ofName?_iff {s : String} : (∃ found, ofName? s = some found) ↔ SpellsAscii s := by
  rw [← ofName?_eq_ascii_iff]
  constructor
  · rintro ⟨found, selected⟩
    rw [selected, eq_ascii found]
  · exact fun selected => ⟨.ascii, selected⟩

/-- No character of a text that spells the name has a longer upper case. -/
theorem SpellsAscii.length_upperChar {s : String} (h : SpellsAscii s) {c : Char}
    (among : c ∈ s.toList) : (upperChar c).length = 1 := by
  have letters := upperCase_eq_ascii_iff_forall₂.1 (upperCase_eq_ascii_iff.2 h)
  obtain ⟨d, _, single⟩ := exists_of_mem_of_forall₂ letters.flip among
  rw [single, List.length_singleton]

end Charset

namespace Project

open Charset (SpellsAscii)

variable {directives : Directives} {projectPath workingDir : Path} {fs : FileSystem} {s : String}

/-- The character set of a project is settled if its value spells a name. -/
theorem charset_settled_iff (given : value? directives .charset = some s) :
    (∃ found, (charset directives).result = .ok found) ↔ SpellsAscii s := by
  rw [← Charset.exists_ofName?_iff]
  refine exists_congr fun found => ?_
  rw [charset_eq_ok_iff, given, Charset.ofName?_eq_some_iff]
  simp

/-- A value that does not spell a name is what a project can be refused for. -/
theorem refuses_charset_iff (given : value? directives .charset = some s) :
    Refuses directives projectPath workingDir fs .charset (.unsupportedCharset (upperCase s)) ↔
      ¬ SpellsAscii s := by
  rw [← charset_eq_error_iff, result_charset, result_required, given, ← Charset.exists_ofName?_iff,
    not_exists, ← Option.eq_none_iff_forall_ne_some]
  exact elim_eq_error_iff.trans (and_iff_left rfl)

/-- A project whose glyph source is found is refused for its character set exactly if the value does
not spell a name. -/
theorem resolve_eq_unsupportedCharset_iff (given : value? directives .charset = some s)
    {path : Path} (located : (locate directives projectPath workingDir fs).result = .ok path) :
    (resolve directives projectPath workingDir fs).result =
        .error (.unsupportedCharset (upperCase s)) ↔ ¬ SpellsAscii s := by
  rw [← @refuses_charset_iff _ projectPath workingDir fs _ given, resolve_eq_error_iff]
  constructor
  · rintro ⟨_, key, _, _, _, refused⟩
    -- Only the character set can be refused in these words.
    obtain notLocated | about := refused.about
    · cases notLocated
    · cases about
      exact refused
  · intro refused
    refine ⟨[.fontFile], .charset, [.fontWidth, .fontHeight], rfl, ?_, refused⟩
    refine List.forall_mem_singleton.2 fun e notLocated => ?_
    exact ne_ok_of_error (locate_eq_error_iff_refuses.2 notLocated) path located

/-- A text selects a character set if and only if it has five characters and each is one with which
the letter of `ASCII` in its place can be written. So none with a longer upper case is among them.
The same texts are taken as the character set of a project. -/
theorem charset_selected_iff_spelled (s : String) :
    ((∃ found, Charset.ofName? s = some found) ↔ SpellsAscii s) ∧
    ((∃ c ∈ s.toList, (upperChar c).length ≠ 1) → Charset.ofName? s = none) ∧
    ∀ directives : Directives, value? directives .charset = some s →
      ((∃ found, (charset directives).result = .ok found) ↔ SpellsAscii s) ∧
      ∀ projectPath workingDir fs path,
        (locate directives projectPath workingDir fs).result = .ok path →
          ((resolve directives projectPath workingDir fs).result =
            .error (.unsupportedCharset (upperCase s)) ↔ ¬ SpellsAscii s) := by
  refine ⟨Charset.exists_ofName?_iff, ?_, fun directives given => ?_⟩
  · rintro ⟨c, among, longer⟩
    refine Option.eq_none_iff_forall_ne_some.2 fun found selected => ?_
    exact longer ((Charset.exists_ofName?_iff.1 ⟨found, selected⟩).length_upperChar among)
  · exact ⟨charset_settled_iff given, fun _ _ _ _ => resolve_eq_unsupportedCharset_iff given⟩

/-- The name with a long s and two dotless i, and a text whose upper case has as many letters as the
name although it has one character less. -/
theorem charset_selected_iff_spelled_long_s :
    let good : Directives := ⟨[("CHARSET", "a\u017Fc\u0131\u0131")], by decide⟩
    let bad : Directives := ⟨[("CHARSET", "A\u00DFII"), ("FONT_FILE", "g")], by decide⟩
    let fs : FileSystem := ⟨[(["g"], .file [])], [], by decide⟩
    (∃ found, (charset good).result = .ok found) ∧ Charset.ofName? "A\u00DFII" = none ∧
      (resolve bad ⟨"p"⟩ ⟨""⟩ fs).result = .error (.unsupportedCharset "ASSII") := by
  intro good bad fs
  have spelled : SpellsAscii "a\u017Fc\u0131\u0131" := by
    refine .cons ?_ (.cons ?_ (.cons ?_ (.cons ?_ (.cons ?_ .nil)))) <;> decide
  have unspelled : ¬ SpellsAscii "A\u00DFII" := fun h => absurd h.length_eq (by decide)
  have given : value? good .charset = some "a\u017Fc\u0131\u0131" := by decide +kernel
  have given' : value? bad .charset = some "A\u00DFII" := by decide +kernel
  have located : (locate bad ⟨"p"⟩ ⟨""⟩ fs).result = .ok ⟨"g"⟩ := by decide +kernel
  have upper : upperCase "A\u00DFII" = "ASSII" := by decide +kernel
  obtain ⟨-, -, accepted⟩ := charset_selected_iff_spelled "a\u017Fc\u0131\u0131"
  obtain ⟨-, longer, refused⟩ := charset_selected_iff_spelled "A\u00DFII"
  refine ⟨(accepted good given).1.2 spelled, longer ⟨'\u00DF', by decide, by decide +kernel⟩, ?_⟩
  rw [← upper]
  exact ((refused bad given').2 _ _ _ _ located).2 unspelled

end Project

end BitmapFont
