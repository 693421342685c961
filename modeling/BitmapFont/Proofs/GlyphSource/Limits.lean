import BitmapFont.Proofs.AssemblyErrors
import BitmapFont.Proofs.GlyphSource.FirstMistake

/-!
# Limits of what is read

Whatever a source says, each of its definitions has the shape of the settings. The index of a
definition is that of a character of ASCII other than the line feed, and no two definitions share
one, so that there are at most 127 of them.
-/

namespace BitmapFont.GlyphSource

variable {settings : FontSettings} {used : IndexSet} {lines : List (Nat × List Char)}

theorem mem_of_mem_upToError {ε α : Type} {outcomes : List (Except ε α)} {item : Except ε α}
    (h : item ∈ upToError outcomes) : item ∈ outcomes := by
  induction outcomes with
  | nil => exact h
  | cons first rest ih =>
    cases first with
    | error e => exact List.mem_cons.2 (Or.inl (List.mem_singleton.1 h))
    | ok a =>
      obtain rfl | later := List.mem_cons.1 h
      · exact List.mem_cons_self
      · exact List.mem_cons_of_mem _ (ih later)

/-- Everything that reading gives is the outcome of a definition line. -/
theorem exists_line_of_mem_items {item : Except GlyphError GlyphDefinition}
    (h : item ∈ (readLines settings used lines).items) :
    ∃ line ∈ definitionLines used.order lines, outcome settings line = item := by
  rw [items_readLines] at h
  exact List.mem_map.1 (mem_of_mem_upToError h)

theorem exists_line_of_definition {d : GlyphDefinition}
    (h : d ∈ (readLines settings used lines).definitions) :
    ∃ line ∈ definitionLines used.order lines, outcome settings line = .ok d :=
  exists_line_of_mem_items (List.mem_append_left _ (List.mem_map_of_mem h))

theorem exists_line_of_failure {e : GlyphError}
    (h : (readLines settings used lines).failure = some e) :
    ∃ line ∈ definitionLines used.order lines, outcome settings line = .error e := by
  refine exists_line_of_mem_items (List.mem_append_right _ (List.mem_map_of_mem ?_))
  rw [h]
  exact List.mem_singleton.2 rfl

/-- No row overflows, because the limit on its width comes first. -/
theorem ne_overflow_of_failure {e : GlyphError}
    (h : (readLines settings used lines).failure = some e) (n : Nat) (row : String) :
    e ≠ .overflow n row := by
  rintro rfl
  obtain ⟨line, _, failed⟩ := exists_line_of_failure h
  cases outcome_eq_error_iff.1 failed with
  | row _ _ mistake => exact nomatch mistake

theorem fits_of_definition {d : GlyphDefinition}
    (h : d ∈ (readLines settings used lines).definitions) : settings.Fits d := by
  obtain ⟨line, _, given⟩ := exists_line_of_definition h
  exact fits_of_outcome given

/-- The index of a definition is that of a character which begins a line. -/
theorem index_of_definition {text : String} {d : GlyphDefinition}
    (h : d ∈ (readText settings text used).definitions) :
    d.index.toNat < 128 ∧ d.index ≠ 10 := by
  obtain ⟨line, hline, given⟩ := exists_line_of_definition h
  obtain ⟨among, nonempty, _, ascii, _, _⟩ := mem_of_mem_definitionLines hline
  have index := (outcome_eq_ok_iff.1 given).2.1
  have value : d.index.toNat = (lineChar line.2).toNat := by
    rw [index, lineIndex, Text.toNat_byte_of_lt_128 ascii]
  refine ⟨by omega, fun feed => ?_⟩
  rw [feed] at value
  -- The character with this index ends lines, so none begins with it.
  have same : lineChar line.2 = '\n' := by
    rw [← Char.ofNat_toNat (lineChar line.2), ← value]
    rfl
  have single : '\n' ∉ line.2 := by
    refine Text.lineFeed_not_mem_of_mem_lines (s := text.toList) ?_
    rw [← Text.map_snd_numbered (Text.lines text.toList)]
    exact List.mem_map_of_mem among
  obtain ⟨c, rest, begins⟩ := List.exists_cons_of_ne_nil nonempty
  rw [begins] at same single
  exact single (List.mem_cons.2 (Or.inl same.symm))

/-- The indices in use are distinct, so those of the definitions are. -/
theorem nodup_definitions :
    ((readLines settings used lines).definitions.map (·.index)).Nodup := by
  have distinct := (readLines settings used lines).used.nodup
  rw [order_readLines] at distinct
  exact (List.nodup_append.1 distinct).2.1

/-- The indices that a definition can have. -/
def possibleIndices : List UInt8 :=
  ((List.range 128).erase 10).map UInt8.ofNat

theorem mem_possibleIndices {index : UInt8} (ascii : index.toNat < 128) (noFeed : index ≠ 10) :
    index ∈ possibleIndices := by
  have other : index.toNat ≠ 10 := fun feed => noFeed (UInt8.toNat_inj.1 feed)
  have among := (List.mem_erase_of_ne other).2 (List.mem_range.2 ascii)
  exact List.mem_map.2 ⟨index.toNat, among, UInt8.ofNat_toNat⟩

theorem length_possibleIndices : possibleIndices.length = 127 := by
  have feed : 10 ∈ List.range 128 := List.mem_range.2 (by decide)
  rw [possibleIndices, List.length_map, List.length_erase_of_mem feed, List.length_range]

/-- A source has at most 127 definitions. -/
theorem length_definitions_le (settings : FontSettings) (text : String) (used : IndexSet) :
    (readText settings text used).definitions.length ≤ 127 := by
  have among : (readText settings text used).definitions.map (·.index) ⊆ possibleIndices := by
    intro index hindex
    obtain ⟨d, hd, rfl⟩ := List.mem_map.1 hindex
    obtain ⟨ascii, noFeed⟩ := index_of_definition hd
    exact mem_possibleIndices ascii noFeed
  have bound := List.Nodup.length_le_of_subset nodup_definitions among
  rwa [List.length_map, length_possibleIndices] at bound

theorem countable_definitions (settings : FontSettings) (text : String) (used : IndexSet) :
    (readText settings text used).definitions.length ≤ Header.maxGlyphs :=
  Nat.le_trans (length_definitions_le settings text used) (by decide)

/-- Assembling what was read ends in no other error than the mistake that ended the reading. -/
theorem stream_of_assemble_error {text : String} {e : AssemblyError GlyphError}
    (name : Storable settings.name)
    (failed : assemble settings (readText settings text used).items = .error e) :
    ∃ cause, (readText settings text used).failure = some cause ∧ e = .stream cause := by
  have bound := countable_definitions settings text used
  have fits : ∀ d ∈ (readText settings text used).definitions, settings.Fits d :=
    fun d hd => fits_of_definition hd
  cases mistake : (readText settings text used).failure with
  | none =>
    have items : (readText settings text used).items =
        (readText settings text used).definitions.map .ok := by
      simp [Reading.items, mistake]
    have built := assemble_eq_ok_iff.2 ⟨_, items, bound, fits, name, rfl⟩
    rw [built] at failed
    exact absurd failed (pure_ne_error _ e)
  | some cause =>
    have items : (readText settings text used).items =
        (readText settings text used).definitions.map .ok ++ [.error cause] := by
      simp [Reading.items, mistake]
    have first := assemble_eq_error_iff.2 (Or.inl ⟨_, _, [], items, bound, fits, .stream cause⟩)
    exact ⟨cause, rfl, Except.error.inj (failed.symm.trans first)⟩

/-- The header of a built font file counts all definitions of the source. -/
theorem exists_glyphCount {text : String} {session : Session} {image : List UInt8}
    (built : (buildFont settings text session).1 = .ok image) :
    ∃ count, image[Header.glyphCountOffset]? = some count ∧
      count.toNat = (readText settings text session.used).definitions.length := by
  obtain ⟨definitions, outcomes, bound, _, rfl⟩ := buildFont_eq_ok_iff.1 built
  refine ⟨(settings.font definitions).header.glyphCount, rfl, ?_⟩
  rw [readText, definitions_of_outcomes outcomes, toNat_glyphCount bound]

end BitmapFont.GlyphSource
