import BitmapFont.Proofs.GlyphSource.Mistakes

/-!
# Reading up to the first mistake

Reading a glyph source gives the definitions of its definition lines in their order. It ends with
the mistake of the first malformed one, as if the source went no further.
-/

namespace BitmapFont.GlyphSource

variable {settings : FontSettings}

theorem malformed_of_reports {line : Nat × List Char} {e : GlyphError}
    (h : Reports settings line e) : Malformed settings line.2 := by
  cases h with
  | @row before after written _ split fine mistake =>
    refine Or.inl ⟨written, by simp [split], fun isRow => ?_⟩
    cases mistake with
    | wrongWidth length => exact length isRow.1
    | invalidDigit _ digit =>
      obtain ⟨c, hc, notZero, notOne⟩ := digit
      exact (isRow.2 c hc).elim notZero notOne
  | count _ count => exact Or.inr count

theorem not_malformed_of_outcome {line : Nat × List Char} {d : GlyphDefinition}
    (h : outcome settings line = .ok d) : ¬ Malformed settings line.2 := by
  obtain ⟨_, _, rows, height⟩ := outcome_eq_ok_iff.1 h
  rw [body_eq_payload] at rows
  rintro (⟨written, hwritten, bad⟩ | count)
  · obtain ⟨row, _, value⟩ := exists_of_mem_of_forall₂ rows.flip hwritten
    exact bad (exists_parseRow_iff.1 ⟨row, value⟩)
  · exact count (rows.length_eq.trans height)

/-- A definition line gives a definition unless it is malformed. -/
theorem exists_outcome_ok_iff {line : Nat × List Char} :
    (∃ d, outcome settings line = .ok d) ↔ ¬ Malformed settings line.2 := by
  constructor
  · rintro ⟨d, given⟩
    exact not_malformed_of_outcome given
  · intro fine
    cases given : outcome settings line with
    | ok d => exact ⟨d, rfl⟩
    | error e => exact absurd (malformed_of_reports (outcome_eq_error_iff.1 given)) fine

theorem exists_outcome_error_iff {line : Nat × List Char} :
    (∃ e, outcome settings line = .error e) ↔ Malformed settings line.2 := by
  constructor
  · rintro ⟨e, given⟩
    exact malformed_of_reports (outcome_eq_error_iff.1 given)
  · intro malformed
    cases given : outcome settings line with
    | ok d => exact absurd malformed (not_malformed_of_outcome given)
    | error e => exact ⟨e, rfl⟩

/-- What a definition line gives is what it writes. -/
theorem records_of_outcome {line : Nat × List Char} {d : GlyphDefinition}
    (h : outcome settings line = .ok d) : Records settings line d := by
  obtain ⟨char, index, rows, _⟩ := outcome_eq_ok_iff.1 h
  rw [body_eq_payload] at rows
  refine ⟨char, index, rows.imp fun written row value => ⟨toNat_le_of_parseRow value, ?_⟩⟩
  obtain ⟨isRow, rfl⟩ := parseRow_eq_ok_iff.1 value
  rw [bareRow_eq_rowDigits, isRow.rowText_rowValue]

theorem exists_records {lines : List (Nat × List Char)}
    (fine : ∀ line ∈ lines, ¬ Malformed settings line.2) :
    ∃ definitions : List GlyphDefinition, lines.map (outcome settings) = definitions.map .ok ∧
      List.Forall₂ (Records settings) lines definitions := by
  obtain ⟨definitions, outcomes⟩ :=
    exists_forall₂ fun line hline => exists_outcome_ok_iff.2 (fine line hline)
  exact ⟨definitions, map_eq_map_ok_iff.2 outcomes, outcomes.imp fun _ _ => records_of_outcome⟩

/-- The indices in use after reading are those before, followed by those of the definitions. -/
theorem order_readLines (settings : FontSettings) (used : IndexSet)
    (lines : List (Nat × List Char)) :
    (readLines settings used lines).used.order =
      used.order ++ (readLines settings used lines).definitions.map (·.index) := by
  induction lines generalizing used with
  | nil => simp [readLines]
  | cons numbered rest ih =>
    obtain ⟨n, line⟩ := numbered
    by_cases defines : Defines used.order line
    · rw [readLines_cons_of_defines defines]
      cases given : outcome settings (n, line) with
      | error e => simp
      | ok d =>
        have index := (outcome_eq_ok_iff.1 given).2.1
        dsimp only
        rw [ih, order_insert_lineIndex defines, List.map_cons, index, List.append_assoc]
        rfl
    · obtain ⟨_, _, same⟩ := readLines_cons_of_not_defines settings defines
      rw [same]
      exact ih used

/-- After a malformed definition line nothing is read. -/
theorem readLines_of_first_mistake {used : IndexSet} {lines good rest : List (Nat × List Char)}
    {bad : Nat × List Char} (split : definitionLines used.order lines = good ++ bad :: rest)
    (fine : ∀ line ∈ good, ¬ Malformed settings line.2) (malformed : Malformed settings bad.2) :
    ∃ before after, lines = before ++ bad :: after ∧
      readLines settings used lines = readLines settings used (before ++ [bad]) := by
  -- The lines before the malformed one extend the indices in use in the same way on both sides.
  induction lines generalizing used good with
  | nil => simp [definitionLines] at split
  | cons numbered more ih =>
    obtain ⟨n, line⟩ := numbered
    by_cases defines : Defines used.order line
    · rw [definitionLines, if_pos defines] at split
      cases good with
      | nil =>
        obtain ⟨rfl, -⟩ := List.cons.inj split
        obtain ⟨e, failed⟩ := exists_outcome_error_iff.2 malformed
        refine ⟨[], more, rfl, ?_⟩
        rw [List.nil_append, readLines_cons_of_defines defines, readLines_cons_of_defines defines,
          failed]
      | cons first good =>
        obtain ⟨rfl, tail⟩ := List.cons.inj split
        obtain ⟨wellFormed, others⟩ := List.forall_mem_cons.1 fine
        obtain ⟨d, given⟩ := exists_outcome_ok_iff.2 wellFormed
        rw [← order_insert_lineIndex defines] at tail
        obtain ⟨before, after, rfl, same⟩ := ih tail others
        refine ⟨(n, line) :: before, after, rfl, ?_⟩
        rw [List.cons_append, readLines_cons_of_defines defines, readLines_cons_of_defines defines,
          given, same]
    · rw [definitionLines, if_neg defines] at split
      obtain ⟨before, after, rfl, same⟩ := ih split fine
      refine ⟨(n, line) :: before, after, rfl, ?_⟩
      obtain ⟨_, _, skipped⟩ := readLines_cons_of_not_defines settings defines
      rw [List.cons_append, skipped, skipped, same]

theorem Reading.filterMap_items (reading : Reading) :
    reading.items.filterMap Except.toOption = reading.definitions := by
  cases failure : reading.failure with
  | none => simp [items, failure, List.filterMap_map, Function.comp_def, Except.toOption]
  | some e => simp [items, failure, List.filterMap_map, Function.comp_def, Except.toOption]

/-- Reading gives the definitions that are among its items, which are all but a mistake at the
end. -/
theorem Reading.definitions_of_items {reading : Reading} {definitions : List GlyphDefinition}
    (mistakes : List GlyphError)
    (h : reading.items = definitions.map .ok ++ mistakes.map .error) :
    reading.definitions = definitions := by
  rw [← filterMap_items, h, List.filterMap_append]
  simp [List.filterMap_map, Function.comp_def, Except.toOption]

theorem definitions_of_outcomes {used : IndexSet} {lines : List (Nat × List Char)}
    {definitions : List GlyphDefinition}
    (outcomes : List.Forall₂ (fun line d => outcome settings line = .ok d)
      (definitionLines used.order lines) definitions) :
    (readLines settings used lines).definitions = definitions := by
  refine Reading.definitions_of_items [] ?_
  rw [items_readLines, List.map_nil, List.append_nil, upToError_eq_map_ok_iff, map_eq_map_ok_iff]
  exact outcomes

/-- If no definition line is malformed, reading gives what they write. -/
theorem readLines_of_fine {used : IndexSet} {lines : List (Nat × List Char)}
    (fine : ∀ line ∈ definitionLines used.order lines, ¬ Malformed settings line.2) :
    ∃ records : List GlyphDefinition, (readLines settings used lines).items = records.map .ok ∧
      (readLines settings used lines).definitions = records ∧
        List.Forall₂ (Records settings) (definitionLines used.order lines) records := by
  obtain ⟨records, outcomes, recorded⟩ := exists_records fine
  have items : (readLines settings used lines).items = records.map .ok := by
    rw [items_readLines, upToError_eq_map_ok_iff, outcomes]
  exact ⟨records, items, Reading.definitions_of_items [] (by simpa using items), recorded⟩

/-- If a definition line is malformed, reading ends with the mistake of the first such line. -/
theorem items_of_first_mistake {used : IndexSet} {lines good rest : List (Nat × List Char)}
    {bad : Nat × List Char} (split : definitionLines used.order lines = good ++ bad :: rest)
    (fine : ∀ line ∈ good, ¬ Malformed settings line.2) (malformed : Malformed settings bad.2) :
    ∃ (records : List GlyphDefinition) (e : GlyphError),
      (readLines settings used lines).items = records.map .ok ++ [.error e] ∧
        (readLines settings used lines).definitions = records ∧
          List.Forall₂ (Records settings) good records ∧ Reports settings bad e := by
  obtain ⟨records, outcomes, recorded⟩ := exists_records fine
  obtain ⟨e, failed⟩ := exists_outcome_error_iff.2 malformed
  have items : (readLines settings used lines).items = records.map .ok ++ [.error e] := by
    rw [items_readLines, split, List.map_append, List.map_cons, outcomes, failed,
      upToError_append_error]
  exact ⟨records, e, items, Reading.definitions_of_items [e] items, recorded,
    outcome_eq_error_iff.1 failed⟩

/-- Reading gives an error if and only if a definition line is malformed. The error is then the last
that is given: it is the mistake of the first malformed line, and before it comes what the definition
lines before that line write. No line after it is read, and only what was given is in use. Otherwise
reading gives what all definition lines write. -/
theorem read_ends_at_first_mistake (settings : FontSettings) (text : String) (session : Session) :
    let lines := Text.numbered (Text.lines text.toList)
    let definitions := definitionLines session.used.order lines
    let items := (read settings text session).1
    let used := (read settings text session).2.used
    ((∃ e, .error e ∈ items) ↔ ∃ line ∈ definitions, Malformed settings line.2) ∧
    (∀ good bad rest, definitions = good ++ bad :: rest →
      (∀ line ∈ good, ¬ Malformed settings line.2) → Malformed settings bad.2 →
      ∃ (records : List GlyphDefinition) (e : GlyphError),
        items = records.map .ok ++ [.error e] ∧ List.Forall₂ (Records settings) good records ∧
          Reports settings bad e ∧ used.order = session.used.order ++ records.map (·.index) ∧
          ∃ before after, lines = before ++ bad :: after ∧
            readText settings text session.used =
              readLines settings session.used (before ++ [bad])) ∧
    ((∀ line ∈ definitions, ¬ Malformed settings line.2) →
      ∃ records : List GlyphDefinition, items = records.map .ok ∧
        List.Forall₂ (Records settings) definitions records ∧
          used.order = session.used.order ++ records.map (·.index)) := by
  intro lines definitions items used
  have order := order_readLines settings session.used lines
  refine ⟨⟨?_, ?_⟩, ?_, ?_⟩
  · rintro ⟨e, he⟩
    by_contra none
    have fine : ∀ line ∈ definitions, ¬ Malformed settings line.2 :=
      fun line hline malformed => none ⟨line, hline, malformed⟩
    obtain ⟨records, given, _⟩ := readLines_of_fine fine
    have impossible : .error e ∈ records.map Except.ok := given ▸ he
    simp at impossible
  · rintro some
    obtain ⟨good, bad, rest, split, malformed, fine⟩ := exists_first some
    obtain ⟨records, e, given, _⟩ := items_of_first_mistake split fine malformed
    refine ⟨e, ?_⟩
    change .error e ∈ (readLines settings session.used lines).items
    simp [given]
  · intro good bad rest split fine malformed
    obtain ⟨records, e, given, same, recorded, reported⟩ :=
      items_of_first_mistake split fine malformed
    rw [same] at order
    exact ⟨records, e, given, recorded, reported, order,
      readLines_of_first_mistake split fine malformed⟩
  · intro fine
    obtain ⟨records, given, same, recorded⟩ := readLines_of_fine fine
    rw [same] at order
    exact ⟨records, given, recorded, order⟩

/-- The second of three lines has no rows, because its second character takes two bytes. -/
theorem read_ends_at_first_mistake_of_three_lines :
    ∃ (records : List GlyphDefinition) (e : GlyphError),
      (read ⟨.ascii, .w8, 1, .white, "F"⟩ "B=00000001\n=é0000000\nC=0" .empty).1 =
        records.map .ok ++ [.error e] ∧
      List.Forall₂ (Records ⟨.ascii, .w8, 1, .white, "F"⟩) [(1, "B=00000001".toList)] records ∧
      Reports ⟨.ascii, .w8, 1, .white, "F"⟩ (2, "=é0000000".toList) e := by
  have split : definitionLines [] (Text.numbered (Text.lines "B=00000001\n=é0000000\nC=0".toList)) =
      [(1, "B=00000001".toList)] ++ (2, "=é0000000".toList) :: [(3, "C=0".toList)] := by
    decide
  have first : outcome ⟨.ascii, .w8, 1, .white, "F"⟩ (1, "B=00000001".toList) =
      .ok ⟨'B', 0x42, [1]⟩ := by
    decide
  have second : outcome ⟨.ascii, .w8, 1, .white, "F"⟩ (2, "=é0000000".toList) =
      .error (.wrongWidth 2 8 0) := by
    decide
  have fine := not_malformed_of_outcome first
  have malformed := malformed_of_reports (outcome_eq_error_iff.1 second)
  obtain ⟨records, e, items, recorded, reported, -⟩ :=
    (read_ends_at_first_mistake _ _ .empty).2.1 _ _ _ split (by simpa using fine) malformed
  exact ⟨records, e, items, recorded, reported⟩

end BitmapFont.GlyphSource
