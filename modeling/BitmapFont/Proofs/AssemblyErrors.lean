import BitmapFont.Proofs.PatchedCount
import BitmapFont.Proofs.Image.RepeatedIndices

/-!
# Errors of assembling

A stream is assembled up to the first of its items that is refused, and the reason for which this
item is refused is the error. Nothing after it matters, and the name of the font is looked at only
if no item is refused. Indices may come again in a stream that is assembled; it is the reader that
refuses the file then.

## Main definitions

- `AssemblyError.Refuses` — why an item of a stream is refused
-/

namespace BitmapFont

variable {ε : Type} {settings : FontSettings} {items : List (Except ε GlyphDefinition)}
  {e : AssemblyError ε}

/-- Why an item of a stream is refused that is the one with a given number. Of several reasons the
one that comes first here counts. -/
inductive AssemblyError.Refuses (settings : FontSettings) (number : Nat) :
    Except ε GlyphDefinition → AssemblyError ε → Prop
  | stream (cause : ε) : Refuses settings number (.error cause) (.stream cause)
  | count (d : GlyphDefinition) (uncounted : Header.maxGlyphs < number) :
    Refuses settings number (.ok d) .tooManyGlyphs
  | height {d : GlyphDefinition} (counted : number ≤ Header.maxGlyphs)
      (height : d.rows.length ≠ settings.height.toNat) :
    Refuses settings number (.ok d)
      (.wrongHeight d.char d.rows.length settings.height.toNat)
  | row {d : GlyphDefinition} {before after : List UInt64} {row : UInt64}
      (counted : number ≤ Header.maxGlyphs) (height : d.rows.length = settings.height.toNat)
      (split : d.rows = before ++ row :: after)
      (fit : ∀ b ∈ before, b.toNat ≤ settings.width.maxValue)
      (wide : settings.width.maxValue < row.toNat) :
    Refuses settings number (.ok d) (.write (.rowTooWide row settings.width d.index))

open AssemblyError (Refuses)

theorem ofWrite_eq_error_iff {outcome : Except Image.WriteError Unit × Image.Writer} :
    AssemblyError.ofWrite outcome = .error e ↔ ∃ cause, outcome.1 = .error cause ∧
      e = .write cause := by
  obtain ⟨result, written⟩ := outcome
  cases result with
  | error cause => simp [AssemblyError.ofWrite, eq_comm]
  | ok _ => simp [AssemblyError.ofWrite]

theorem writeDefinition_eq_error_iff {number : Nat} {w : Image.Writer} {d : GlyphDefinition} :
    writeDefinition settings number w d = .error e ↔ Refuses settings number (.ok d) e := by
  unfold writeDefinition
  split
  case isTrue uncounted =>
    constructor
    · rintro ⟨⟩
      exact .count d uncounted
    · rintro (_ | _ | counted | counted)
      · rfl
      · exact absurd uncounted (Nat.not_lt.2 counted)
      · exact absurd uncounted (Nat.not_lt.2 counted)
  case isFalse counted =>
    rw [Nat.not_lt] at counted
    split
    case isTrue height =>
      constructor
      · rintro ⟨⟩
        exact .height counted height
      · rintro (_ | ⟨_, uncounted⟩ | _ | ⟨_, same⟩)
        · exact absurd counted (Nat.not_le.2 uncounted)
        · rfl
        · exact absurd same height
    case isFalse height =>
      rw [ne_eq, not_not] at height
      simp only [ofWrite_eq_error_iff, Image.Writer.writeGlyph_eq_error_iff]
      constructor
      · rintro ⟨_, ⟨before, row, after, split, fit, wide, rfl⟩, rfl⟩
        exact .row counted height split fit wide
      · rintro (_ | ⟨_, uncounted⟩ | ⟨_, other⟩ | ⟨_, _, split, fit, wide⟩)
        · exact absurd counted (Nat.not_le.2 uncounted)
        · exact absurd height other
        · exact ⟨_, ⟨_, _, _, split, fit, wide, rfl⟩, rfl⟩

/-- A stream is written up to the first of its items that is refused. -/
theorem writeDefinitions_eq_error_iff {count : Nat} {w : Image.Writer}
    (countable : count ≤ Header.maxGlyphs) :
    writeDefinitions settings count w items = .error e ↔
      ∃ (definitions : List GlyphDefinition) (item : Except ε GlyphDefinition)
        (rest : List (Except ε GlyphDefinition)),
        items = definitions.map .ok ++ item :: rest ∧
          count + definitions.length ≤ Header.maxGlyphs ∧ (∀ d ∈ definitions, settings.Fits d) ∧
            Refuses settings (count + definitions.length + 1) item e := by
  induction items generalizing count w with
  | nil => simp [writeDefinitions]
  | cons item rest ih =>
    cases item with
    | error cause =>
      simp only [writeDefinitions, Except.error.injEq]
      constructor
      · rintro rfl
        exact ⟨[], .error cause, rest, rfl, countable, List.forall_mem_nil _, .stream cause⟩
      · rintro ⟨definitions, item, rest, same, -, -, refused⟩
        cases definitions with
        | nil =>
          obtain ⟨rfl, -⟩ := List.cons.inj same
          cases refused
          rfl
        | cons d definitions => simp at same
    | ok d =>
      rw [writeDefinitions, bind_eq_error_iff, writeDefinition_eq_error_iff]
      simp only [writeDefinition_eq_ok_iff]
      have shift (n : Nat) : count + 1 + n = count + (n + 1) := Nat.succ_add_eq_add_succ count n
      constructor
      · rintro (refused | ⟨_, ⟨next, fits, rfl⟩, failed⟩)
        · exact ⟨[], .ok d, rest, rfl, countable, List.forall_mem_nil _, refused⟩
        · obtain ⟨definitions, item, after, rfl, bound, others, refused⟩ := (ih next).1 failed
          rw [shift] at bound refused
          exact ⟨d :: definitions, item, after, rfl, bound, List.forall_mem_cons.2 ⟨fits, others⟩,
            refused⟩
      · rintro ⟨definitions, item, after, same, bound, fits, refused⟩
        cases definitions with
        | nil =>
          obtain ⟨rfl, -⟩ := List.cons.inj same
          exact Or.inl refused
        | cons first definitions =>
          obtain ⟨sameFirst, rfl⟩ := List.cons.inj same
          obtain rfl := Except.ok.inj sameFirst
          obtain ⟨fit, others⟩ := List.forall_mem_cons.1 fits
          rw [List.length_cons, ← shift] at bound refused
          have next : count + 1 ≤ Header.maxGlyphs := Nat.le_of_add_right_le bound
          exact Or.inr ⟨_, ⟨next, fit, rfl⟩,
            (ih next).2 ⟨definitions, item, after, rfl, bound, others, refused⟩⟩

/-- A font is not assembled because of the first item that is refused, or because of its name if no
item is. -/
theorem assemble_eq_error_iff :
    assemble settings items = .error e ↔
      (∃ (definitions : List GlyphDefinition) (item : Except ε GlyphDefinition)
        (rest : List (Except ε GlyphDefinition)),
        items = definitions.map .ok ++ item :: rest ∧ definitions.length ≤ Header.maxGlyphs ∧
          (∀ d ∈ definitions, settings.Fits d) ∧
            Refuses settings (definitions.length + 1) item e) ∨
      ∃ (definitions : List GlyphDefinition) (cause : Image.WriteError),
        items = definitions.map .ok ∧ definitions.length ≤ Header.maxGlyphs ∧
          (∀ d ∈ definitions, settings.Fits d) ∧ Image.NameRefused settings.name cause ∧
            e = .write cause := by
  simp only [assemble, bind_eq_error_iff, Prod.exists, ofWrite_eq_error_iff,
    Image.Writer.writeHeader_eq_error_iff, pure_ne_error, and_false, exists_false, or_false,
    writeDefinitions_eq_error_iff (Nat.zero_le _), writeDefinitions_eq_ok_iff (Nat.zero_le _),
    Nat.zero_add]
  refine or_congr_right ?_
  constructor
  · rintro ⟨_, _, ⟨definitions, same, bound, fits, rfl, rfl⟩, cause, refused, rfl⟩
    exact ⟨definitions, cause, same, bound, fits, refused, rfl⟩
  · rintro ⟨definitions, cause, same, bound, fits, refused, rfl⟩
    exact ⟨_, _, ⟨definitions, same, bound, fits, rfl, rfl⟩, cause, refused, rfl⟩

/-- A reader accepts the file of definitions that fit if no index comes again. -/
theorem read_assembled_of_nodup {definitions : List GlyphDefinition} {image : List UInt8}
    (assembled : assemble (ε := ε) settings (definitions.map .ok) = .ok image)
    (distinct : (definitions.map (·.index)).Nodup) :
    Image.read image = .ok (settings.font definitions) := by
  obtain ⟨bound, fits, name, rfl⟩ := assemble_definitions_eq_ok_iff.1 assembled
  exact Image.read_eq_ok_iff.2 ⟨FontSettings.font_wellFormed name bound fits distinct, rfl⟩

/-- If an index comes again, a reader refuses the file for the first that does. -/
theorem read_assembled_of_not_nodup {definitions : List GlyphDefinition} {image : List UInt8}
    (assembled : assemble (ε := ε) settings (definitions.map .ok) = .ok image)
    (repeats : ¬ (definitions.map (·.index)).Nodup) :
    ∃ before d after, definitions = before ++ d :: after ∧ (before.map (·.index)).Nodup ∧
      d.index ∈ before.map (·.index) ∧ Image.read image = .error (.duplicateIndex d.index) := by
  obtain ⟨bound, fits, name, rfl⟩ := assemble_definitions_eq_ok_iff.1 assembled
  obtain ⟨before, d, after, rfl, distinct, again⟩ := exists_first_repeated repeats
  have split : (settings.font (before ++ d :: after)).glyphs =
      before.map (·.glyph) ++ d.glyph :: after.map (·.glyph) := by
    rw [FontSettings.font, List.map_append, List.map_cons]
  have indices : (before.map (·.glyph)).map (·.index) = before.map (·.index) :=
    settings.indices_font before
  refine ⟨before, d, after, rfl, distinct, again, ?_⟩
  refine Image.read_fontBytes_of_repeated (FontSettings.font_wellShaped name bound fits) split ?_ ?_
  · rwa [indices]
  · rwa [indices]

/-- A font is assembled if no item is an error, the header can count the items, each fits, and the
name is storable. Otherwise the first item that is refused is the error, whatever follows it, and
only after every item the name. The file counts the items and has a record for each. A reader gives
back the definitions if no index comes again, and otherwise refuses the first that does. -/
theorem assemble_first_refusal (settings : FontSettings) :
    (∀ items : List (Except ε GlyphDefinition),
      (∃ image, assemble settings items = .ok image) ↔
        ∃ definitions : List GlyphDefinition, items = definitions.map .ok ∧
          definitions.length ≤ Header.maxGlyphs ∧ (∀ d ∈ definitions, settings.Fits d) ∧
            Storable settings.name) ∧
    (∀ (items : List (Except ε GlyphDefinition)) (e : AssemblyError ε),
      assemble settings items = .error e ↔
        (∃ (definitions : List GlyphDefinition) (item : Except ε GlyphDefinition)
          (rest : List (Except ε GlyphDefinition)),
          items = definitions.map .ok ++ item :: rest ∧ definitions.length ≤ Header.maxGlyphs ∧
            (∀ d ∈ definitions, settings.Fits d) ∧
              Refuses settings (definitions.length + 1) item e) ∨
        ∃ (definitions : List GlyphDefinition) (cause : Image.WriteError),
          items = definitions.map .ok ∧ definitions.length ≤ Header.maxGlyphs ∧
            (∀ d ∈ definitions, settings.Fits d) ∧ Image.NameRefused settings.name cause ∧
              e = .write cause) ∧
    (∀ (definitions : List GlyphDefinition) (item : Except ε GlyphDefinition)
        (rest rest' : List (Except ε GlyphDefinition)) (e : AssemblyError ε),
      definitions.length ≤ Header.maxGlyphs → (∀ d ∈ definitions, settings.Fits d) →
        Refuses settings (definitions.length + 1) item e →
          assemble settings (definitions.map .ok ++ item :: rest) =
            assemble settings (definitions.map .ok ++ item :: rest')) ∧
    ∀ (definitions : List GlyphDefinition) (image : List UInt8),
      assemble (ε := ε) settings (definitions.map .ok) = .ok image →
        let header := settings.header (UInt8.ofNat definitions.length)
        image[Header.glyphCountOffset]? = some header.glyphCount ∧
          header.glyphCount.toNat = definitions.length ∧
          image.length = header.encodedLength + definitions.length * header.recordLength ∧
          (∀ f, Image.read image = .ok f ↔
            (definitions.map (·.index)).Nodup ∧ f = ⟨header, definitions.map (·.glyph)⟩) ∧
          (¬ (definitions.map (·.index)).Nodup →
            ∃ before d after, definitions = before ++ d :: after ∧ (before.map (·.index)).Nodup ∧
              d.index ∈ before.map (·.index) ∧
                Image.read image = .error (.duplicateIndex d.index)) := by
  refine ⟨fun items => ?_, fun items e => assemble_eq_error_iff, ?_, ?_⟩
  · simp only [assemble_eq_ok_iff]
    constructor
    · rintro ⟨_, definitions, same, bound, fits, name, -⟩
      exact ⟨definitions, same, bound, fits, name⟩
    · rintro ⟨definitions, same, bound, fits, name⟩
      exact ⟨_, definitions, same, bound, fits, name, rfl⟩
  · intro definitions item rest rest' e bound fits refused
    have whatever (after : List (Except ε GlyphDefinition)) :
        assemble settings (definitions.map .ok ++ item :: after) = .error e :=
      assemble_eq_error_iff.2 (Or.inl ⟨definitions, item, after, rfl, bound, fits, refused⟩)
    rw [whatever rest, whatever rest']
  · intro definitions image assembled header
    obtain ⟨bound, fits, name, same⟩ := assemble_definitions_eq_ok_iff.1 assembled
    have shaped := FontSettings.font_wellShaped name bound fits
    refine ⟨?_, toNat_glyphCount bound, ?_, fun f => ?_, read_assembled_of_not_nodup assembled⟩
    · rw [same]
      exact Image.getElem?_glyphCount _ _
    · have length := Image.length_fontBytes shaped.name shaped.height
      rw [← shaped.count, toNat_glyphCount bound, ← same] at length
      exact length
    · constructor
      · intro accepted
        by_cases distinct : (definitions.map (·.index)).Nodup
        · rw [read_assembled_of_nodup assembled distinct] at accepted
          exact ⟨distinct, (Except.ok.inj accepted).symm⟩
        · obtain ⟨_, _, _, _, _, _, refused⟩ := read_assembled_of_not_nodup assembled distinct
          exact nomatch refused.symm.trans accepted
      · rintro ⟨distinct, rfl⟩
        exact read_assembled_of_nodup assembled distinct

/-- Two definitions of one index with a third whose row is too wide. The three are refused for the
row, also if there is an error of the stream after it. The first two are assembled, but no reader
accepts the file. -/
theorem assemble_first_refusal_wide_row :
    let settings : FontSettings := ⟨.ascii, .w8, 1, .white, "F"⟩
    let twice : List GlyphDefinition := [⟨'A', 0x41, [1]⟩, ⟨'A', 0x41, [2]⟩]
    let wide : GlyphDefinition := ⟨'B', 0x42, [0x100]⟩
    let image : List UInt8 :=
      [0xBF, 0xFF, 1, 0, 8, 1, 2, 255, 255, 255, 0x46, 0, 0x41, 1, 0x41, 2]
    assemble settings (twice.map .ok ++ .ok wide :: [.error "no glyph"]) =
        .error (.write (.rowTooWide 0x100 .w8 0x42)) ∧
      assemble settings (twice.map .ok ++ .ok wide :: [.error "no glyph"]) =
        assemble settings (twice.map .ok ++ [.ok wide]) ∧
      assemble (ε := String) settings (twice.map .ok) = .ok image ∧
      ∃ before d after, twice = before ++ d :: after ∧ (before.map (·.index)).Nodup ∧
        d.index ∈ before.map (·.index) ∧
          Image.read image = .error (.duplicateIndex d.index) := by
  intro settings twice wide image
  obtain ⟨-, errors, unaffected, files⟩ := assemble_first_refusal (ε := String) settings
  have fits : ∀ d ∈ twice, settings.Fits d := by
    simp [twice, settings, FontSettings.Fits, RowWidth.maxValue, RowWidth.bits]
  have first : wide.rows = [] ++ 0x100 :: [] := rfl
  have refused : Refuses (ε := String) settings 3 (.ok wide)
      (.write (.rowTooWide 0x100 .w8 0x42)) :=
    .row (by decide) rfl first (List.forall_mem_nil _) (by decide)
  have bound : twice.length ≤ Header.maxGlyphs := by decide
  have assembled : assemble (ε := String) settings (twice.map .ok) = .ok image := by
    decide +kernel
  refine ⟨?_, unaffected twice _ _ _ _ bound fits refused, assembled, ?_⟩
  · exact (errors _ _).2 (Or.inl ⟨twice, _, _, rfl, bound, fits, refused⟩)
  · obtain ⟨-, -, -, -, repeated⟩ := files twice image assembled
    exact repeated (by decide)

end BitmapFont
