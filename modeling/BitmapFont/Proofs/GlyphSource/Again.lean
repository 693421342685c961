import BitmapFont.Proofs.GlyphSource.FirstMistake

/-!
# Reading a source again

Reading takes every index that a line of a source could define. So the same source defines nothing
more in the session that it leaves, and the font that is then built has no glyphs.
-/

namespace BitmapFont.GlyphSource

variable {settings : FontSettings}

/-- If a line could define a glyph before any other does, its index goes to a definition line. -/
theorem lineIndex_mem_of_defines {used : List UInt8} {lines : List (Nat × List Char)}
    {line : Nat × List Char} (h : line ∈ lines) (defines : Defines used line.2) :
    lineIndex line.2 ∈ (definitionLines used lines).map (lineIndex ·.2) := by
  induction lines generalizing used with
  | nil => exact absurd h List.not_mem_nil
  | cons first rest ih =>
    obtain ⟨n, text⟩ := first
    by_cases taken : Defines used text
    · rw [definitionLines, if_pos taken, List.map_cons]
      by_cases same : lineIndex line.2 = lineIndex text
      · exact List.mem_cons.2 (Or.inl same)
      · -- A line about another index can still define its glyph after this one.
        have later : line ∈ rest := by
          obtain rfl | later := List.mem_cons.1 h
          · exact absurd rfl same
          · exact later
        have still : Defines (used ++ [lineIndex text]) line.2 := by
          obtain ⟨nonempty, noComment, ascii, fresh, equals⟩ := defines
          refine ⟨nonempty, noComment, ascii, fun old => ?_, equals⟩
          obtain old | now := List.mem_append.1 old
          · exact fresh old
          · exact same (List.mem_singleton.1 now)
        exact List.mem_cons_of_mem _ (ih later still)
    · rw [definitionLines, if_neg taken]
      obtain rfl | later := List.mem_cons.1 h
      · exact absurd defines taken
      · exact ih later defines

theorem definitionLines_eq_nil {used : List UInt8} {lines : List (Nat × List Char)}
    (h : ∀ line ∈ lines, ¬ Defines used line.2) : definitionLines used lines = [] := by
  induction lines with
  | nil => rfl
  | cons first rest ih =>
    obtain ⟨notFirst, others⟩ := List.forall_mem_cons.1 h
    rw [definitionLines, if_neg notFirst, ih others]

/-- After the definition lines of a source none of its lines defines a glyph. -/
theorem definitionLines_again (used : List UInt8) (lines : List (Nat × List Char)) :
    definitionLines (used ++ (definitionLines used lines).map (lineIndex ·.2)) lines = [] := by
  refine definitionLines_eq_nil fun line hline defines => ?_
  have taken := lineIndex_mem_of_defines hline defines.of_append
  exact defines.2.2.2.1 (List.mem_append_right used taken)

/-- A built font file is read back. Its font has the name of the settings, its indices are those of
the definition lines, and they come after the indices that were in use. -/
theorem read_of_buildFont {text : String} {session : Session} {image : List UInt8}
    (built : (buildFont settings text session).1 = .ok image) :
    ∃ font, Image.read image = .ok font ∧ font.header.name = settings.name ∧
      font.glyphs.map (·.index) =
        (definitionLines session.used.order (Text.numbered (Text.lines text.toList))).map
          (lineIndex ·.2) ∧
      (buildFont settings text session).2.used.order =
        session.used.order ++ font.glyphs.map (·.index) := by
  obtain ⟨definitions, outcomes, bound, name, rfl⟩ := buildFont_eq_ok_iff.1 built
  have formed := FontSettings.font_wellFormed name bound (fits_of_outcomes outcomes)
    (nodup_of_outcomes outcomes)
  have indices : (settings.font definitions).glyphs.map (·.index) =
      definitions.map (·.index) := by
    simp [FontSettings.font, GlyphDefinition.glyph, Function.comp_def]
  refine ⟨settings.font definitions, Image.read_eq_ok_iff.2 ⟨formed, rfl⟩, rfl, ?_, ?_⟩
  · rw [indices, indices_of_outcomes outcomes]
  · have order := order_readLines settings session.used (Text.numbered (Text.lines text.toList))
    rwa [definitions_of_outcomes outcomes, ← indices] at order

/-- A font that was built is built again in the session after it, but then it has no glyphs. -/
theorem buildFont_again {text : String} {session : Session} {image : List UInt8}
    (built : (buildFont settings text session).1 = .ok image) :
    ∃ again font,
      (buildFont settings text (buildFont settings text session).2).1 = .ok again ∧
        Image.read again = .ok font ∧ font.glyphs = [] := by
  obtain ⟨_, _, _, name, _⟩ := buildFont_eq_ok_iff.1 built
  obtain ⟨_, _, _, indices, order⟩ := read_of_buildFont built
  have nothing := definitionLines_again session.used.order
    (Text.numbered (Text.lines text.toList))
  rw [← indices, ← order] at nothing
  have rebuilt : (buildFont settings text (buildFont settings text session).2).1 =
      .ok (Image.fontBytes (settings.font [])) :=
    buildFont_eq_ok_iff.2 ⟨[], by rw [nothing]; exact .nil, Nat.zero_le _, name, rfl⟩
  have formed : (settings.font []).WellFormed :=
    FontSettings.font_wellFormed name (Nat.zero_le _) (fun d hd => absurd hd List.not_mem_nil)
      List.nodup_nil
  exact ⟨_, settings.font [], rebuilt, Image.read_eq_ok_iff.2 ⟨formed, rfl⟩, rfl⟩

end BitmapFont.GlyphSource
