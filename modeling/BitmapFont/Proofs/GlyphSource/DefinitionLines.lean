import BitmapFont.Proofs.GlyphSource.Rows
import BitmapFont.Proofs.Text.Ascii
import BitmapFont.Proofs.Text.Cutting

/-!
# Definition lines

Which lines of a glyph source define a glyph does not depend on their rows, except that nothing is
read after a mistake. So reading is the search for definition lines, followed by the outcomes of
these lines up to the first mistake.

## Main definitions

- `GlyphSource.Defines`, `GlyphSource.definitionLines` — the lines that define glyphs
- `GlyphSource.SkippedFor` — why a line defines no glyph
- `GlyphSource.outcome` — what a definition line gives
- `GlyphSource.upToError` — outcomes up to the first mistake
-/

namespace BitmapFont.GlyphSource

/-- The character that a line is about. -/
def lineChar (line : List Char) : Char := line.headD '\x00'

/-- The byte of the character that a line is about. -/
def lineIndex (line : List Char) : UInt8 := UInt8.ofNat (lineChar line).toNat

/-- Whether a line defines a glyph, after the given indices have been defined. It is not empty and
not a comment, it is about a character of ASCII that has no glyph so far, and it has an equals
sign. -/
def Defines (used : List UInt8) (line : List Char) : Prop :=
  line ≠ [] ∧ ¬ ['/', '/'] <+: line ∧ (lineChar line).toNat < 128 ∧ lineIndex line ∉ used ∧
    '=' ∈ line

instance (used : List UInt8) (line : List Char) : Decidable (Defines used line) :=
  inferInstanceAs (Decidable (_ ∧ _ ∧ _ ∧ _ ∧ _))

/-- The lines that define glyphs, after the given indices have been defined. -/
def definitionLines : List UInt8 → List (Nat × List Char) → List (Nat × List Char)
  | _, [] => []
  | used, (n, line) :: rest =>
    if Defines used line then (n, line) :: definitionLines (used ++ [lineIndex line]) rest
    else definitionLines used rest

/-- Why a line defines no glyph. -/
inductive SkipReason
  | ignored
  | notEncodable
  | alreadyDefined
  | noEquals

/-- What is remarked on a numbered line that defines no glyph. -/
def SkipReason.remark? : SkipReason → Nat × List Char → Option Diagnostic
  | ignored, _ => none
  | notEncodable, (n, line) =>
    some (.warn n (s!"Character {Text.quotedChar (lineChar line)} at line {n} cannot be encoded in "
      ++ s!"{Charset.ascii.name}. Skipping."))
  | alreadyDefined, (n, line) => some (.warn n s!"Glyph for {lineChar line} is already defined.")
  | noEquals, (n, line) =>
    some (.warn n s!"Syntax Error at line {n}: {String.ofList line} is not a valid format.")

/-- The reason for which a line defines no glyph, after the given indices have been defined. Each
reason presupposes that those before it do not apply. -/
inductive SkippedFor (used : List UInt8) (line : List Char) : SkipReason → Prop
  | ignored (comment : line = [] ∨ ['/', '/'] <+: line) : SkippedFor used line .ignored
  | notEncodable (nonempty : line ≠ []) (noComment : ¬ ['/', '/'] <+: line)
    (foreign : Charset.ascii.encode (lineChar line) = none) : SkippedFor used line .notEncodable
  | alreadyDefined (nonempty : line ≠ []) (noComment : ¬ ['/', '/'] <+: line) {index : UInt8}
    (encoded : Charset.ascii.encode (lineChar line) = some index) (old : index ∈ used) :
    SkippedFor used line .alreadyDefined
  | noEquals (nonempty : line ≠ []) (noComment : ¬ ['/', '/'] <+: line) {index : UInt8}
    (encoded : Charset.ascii.encode (lineChar line) = some index) (new : index ∉ used)
    (noEquals : '=' ∉ line) : SkippedFor used line .noEquals

/-- The text in which a definition line gives its rows. -/
def body (line : List Char) : List Char := (body? line).getD []

/-- What a definition line gives. -/
def outcome (settings : FontSettings) (line : Nat × List Char) :
    Except GlyphError GlyphDefinition := do
  let rows ← parseRows settings line.1 (lineChar line.2) (body line.2)
  return ⟨lineChar line.2, lineIndex line.2, rows⟩

/-- Outcomes up to the first error. -/
def upToError {ε α : Type} : List (Except ε α) → List (Except ε α)
  | [] => []
  | .ok a :: rest => .ok a :: upToError rest
  | .error e :: _ => [.error e]

theorem upToError_eq_map_ok_iff {ε α : Type} {outcomes : List (Except ε α)} {values : List α} :
    upToError outcomes = values.map .ok ↔ outcomes = values.map .ok := by
  induction outcomes generalizing values with
  | nil => rfl
  | cons first rest ih =>
    cases first with
    | error e => cases values <;> simp [upToError]
    | ok a =>
      cases values with
      | nil => simp [upToError]
      | cons b values => simp [upToError, ih]

theorem upToError_append_error {ε α : Type} (values : List α) (e : ε)
    (rest : List (Except ε α)) :
    upToError (values.map .ok ++ .error e :: rest) = values.map .ok ++ [.error e] := by
  induction values with
  | nil => rfl
  | cons a values ih => rw [List.map_cons, List.cons_append, upToError, ih, List.cons_append]

theorem SkipReason.exists_message {reason : SkipReason} {line : Nat × List Char} {d : Diagnostic}
    (h : reason.remark? line = some d) : ∃ message, d = .warn line.1 message := by
  cases reason with
  | ignored => exact nomatch h
  | notEncodable => exact ⟨_, (Option.some.inj h).symm⟩
  | alreadyDefined => exact ⟨_, (Option.some.inj h).symm⟩
  | noEquals => exact ⟨_, (Option.some.inj h).symm⟩

theorem isSome_body? {line : List Char} : (body? line).isSome ↔ '=' ∈ line := by
  unfold body?
  split
  · simp
  · simp
  · rw [Option.isSome_map, Text.isSome_cut?]

theorem body?_eq_some_body {line : List Char} (h : '=' ∈ line) :
    body? line = some (body line) := by
  obtain ⟨text, htext⟩ := Option.isSome_iff_exists.1 (isSome_body?.2 h)
  rw [body, htext, Option.getD_some]

/-- A line that defines a glyph is classified as a definition. -/
theorem classify_of_defines {used : IndexSet} {n : Nat} {line : List Char}
    (h : Defines used.order line) :
    classify .ascii used n line = .definition (lineChar line) (lineIndex line) (body line) := by
  obtain ⟨nonempty, noComment, ascii, fresh, equals⟩ := h
  obtain ⟨c, rest, rfl⟩ := List.exists_cons_of_ne_nil nonempty
  have index : Charset.ascii.encode c = some (lineIndex (c :: rest)) :=
    Charset.encode_ascii_eq_some_iff.2 ⟨ascii, rfl⟩
  have comment : ['/', '/'].isPrefixOf (c :: rest) = false :=
    Bool.eq_false_iff.2 fun h => noComment (List.isPrefixOf_iff_prefix.1 h)
  have unused : used.contains (lineIndex (c :: rest)) = false := by
    simpa [IndexSet.contains] using fresh
  simp only [classify, comment, index, unused, body?_eq_some_body equals, Bool.false_eq_true,
    if_false]
  rfl

/-- A line that defines no glyph is skipped for a reason, which says what is remarked on it. -/
theorem classify_of_not_defines {used : IndexSet} {line : List Char}
    (h : ¬ Defines used.order line) :
    ∃ reason, SkippedFor used.order line reason ∧
      ∀ n, classify .ascii used n line = (reason.remark? (n, line)).elim .ignored .skipped := by
  cases line with
  | nil => exact ⟨.ignored, .ignored (Or.inl rfl), fun n => rfl⟩
  | cons c rest =>
    by_cases comment : ['/', '/'] <+: c :: rest
    · refine ⟨.ignored, .ignored (Or.inr comment), fun n => ?_⟩
      simp only [classify, List.isPrefixOf_iff_prefix.2 comment, if_true]
      rfl
    · have noComment : ['/', '/'].isPrefixOf (c :: rest) = false :=
        Bool.eq_false_iff.2 fun h => comment (List.isPrefixOf_iff_prefix.1 h)
      have nonempty : c :: rest ≠ [] := List.cons_ne_nil c rest
      simp only [classify, noComment, Bool.false_eq_true, if_false]
      -- The checks come in the order of the classification, so each case ends with its warning.
      cases index : Charset.ascii.encode c with
      | none => exact ⟨.notEncodable, .notEncodable nonempty comment index, fun n => rfl⟩
      | some i =>
        cases unused : used.contains i with
        | true =>
          have old : i ∈ used.order := by simpa [IndexSet.contains] using unused
          refine ⟨.alreadyDefined, .alreadyDefined nonempty comment index old, fun n => ?_⟩
          simp only [unused, if_true]
          rfl
        | false =>
          have new : i ∉ used.order := by simpa [IndexSet.contains] using unused
          have noEquals : '=' ∉ c :: rest := by
            obtain ⟨ascii, rfl⟩ := Charset.encode_ascii_eq_some_iff.1 index
            exact fun equals => h ⟨nonempty, comment, ascii, new, equals⟩
          have noRows : body? (c :: rest) = none := by
            rw [← Option.not_isSome_iff_eq_none, isSome_body?]
            exact noEquals
          refine ⟨.noEquals, .noEquals nonempty comment index new noEquals, fun n => ?_⟩
          simp only [unused, noRows, Bool.false_eq_true, if_false]
          rfl

/-- The remark with which the reading of a definition line begins. -/
def startNote (n : Nat) (line : List Char) : Diagnostic :=
  .debug n s!"Compiling for char {lineChar line}..."

/-- A definition line adds its definition, or ends the reading. -/
theorem readLines_cons_of_defines {settings : FontSettings} {used : IndexSet} {n : Nat}
    {line : List Char} (h : Defines used.order line) (rest : List (Nat × List Char)) :
    readLines settings used ((n, line) :: rest) =
      match outcome settings (n, line) with
      | .error e => ⟨[], some e, [startNote n line], used⟩
      | .ok d =>
        let reading := readLines settings (used.insert (lineIndex line)) rest
        { reading with
          definitions := d :: reading.definitions
          notes := startNote n line :: reading.notes } := by
  simp only [readLines, settings.charset.eq_ascii, classify_of_defines h, outcome]
  cases rows : parseRows settings n (lineChar line) (body line) with
  | error e => rfl
  | ok values => rfl

/-- A line that defines no glyph adds at most a warning about it. -/
theorem readLines_cons_of_not_defines (settings : FontSettings) {used : IndexSet}
    {line : List Char} (h : ¬ Defines used.order line) :
    ∃ reason, SkippedFor used.order line reason ∧ ∀ n rest,
      readLines settings used ((n, line) :: rest) =
        let reading := readLines settings used rest
        { reading with notes := (reason.remark? (n, line)).toList ++ reading.notes } := by
  obtain ⟨reason, skipped, kind⟩ := classify_of_not_defines h
  refine ⟨reason, skipped, fun n rest => ?_⟩
  simp only [readLines, settings.charset.eq_ascii, kind]
  cases reason.remark? (n, line) with
  | none => rfl
  | some d => rfl

theorem order_insert_lineIndex {used : IndexSet} {line : List Char} (h : Defines used.order line) :
    (used.insert (lineIndex line)).order = used.order ++ [lineIndex line] :=
  IndexSet.order_insert (by simpa [IndexSet.contains] using h.2.2.2.1)

/-- Reading gives the outcomes of the definition lines up to the first mistake. -/
theorem items_readLines (settings : FontSettings) (used : IndexSet)
    (lines : List (Nat × List Char)) :
    (readLines settings used lines).items =
      upToError ((definitionLines used.order lines).map (outcome settings)) := by
  -- Both sides look at the lines with the same indices in use, which a definition extends.
  induction lines generalizing used with
  | nil => rfl
  | cons numbered rest ih =>
    obtain ⟨n, line⟩ := numbered
    by_cases defines : Defines used.order line
    · rw [definitionLines, if_pos defines, ← order_insert_lineIndex defines, List.map_cons,
        readLines_cons_of_defines defines]
      cases outcome settings (n, line) with
      | error e => rfl
      | ok d =>
        rw [upToError, ← ih]
        rfl
    · obtain ⟨_, _, same⟩ := readLines_cons_of_not_defines settings defines
      rw [definitionLines, if_neg defines, ← ih, same]
      rfl

theorem Defines.of_append {used more : List UInt8} {line : List Char}
    (h : Defines (used ++ more) line) : Defines used line := by
  obtain ⟨nonempty, noComment, ascii, fresh, equals⟩ := h
  exact ⟨nonempty, noComment, ascii, fun old => fresh (List.mem_append_left more old), equals⟩

/-- A definition line is a line that defines a glyph already before the other ones do. -/
theorem mem_of_mem_definitionLines {used : List UInt8} {lines : List (Nat × List Char)}
    {line : Nat × List Char} (h : line ∈ definitionLines used lines) :
    line ∈ lines ∧ Defines used line.2 := by
  induction lines generalizing used with
  | nil => exact absurd h List.not_mem_nil
  | cons numbered rest ih =>
    obtain ⟨n, text⟩ := numbered
    by_cases defines : Defines used text
    · rw [definitionLines, if_pos defines] at h
      obtain rfl | later := List.mem_cons.1 h
      · exact ⟨List.mem_cons_self, defines⟩
      · obtain ⟨among, still⟩ := ih later
        exact ⟨List.mem_cons_of_mem _ among, still.of_append⟩
    · rw [definitionLines, if_neg defines] at h
      obtain ⟨among, still⟩ := ih h
      exact ⟨List.mem_cons_of_mem _ among, still⟩

theorem encode_lineChar {used : List UInt8} {lines : List (Nat × List Char)}
    {line : Nat × List Char} (h : line ∈ definitionLines used lines) :
    Charset.ascii.encode (lineChar line.2) = some (lineIndex line.2) :=
  Charset.encode_ascii_eq_some_iff.2 ⟨(mem_of_mem_definitionLines h).2.2.2.1, rfl⟩

/-- The definition lines are about different characters. -/
theorem nodup_definitionLines (used : List UInt8) (lines : List (Nat × List Char)) :
    ((definitionLines used lines).map (lineIndex ·.2)).Nodup := by
  induction lines generalizing used with
  | nil => exact List.nodup_nil
  | cons numbered rest ih =>
    obtain ⟨n, line⟩ := numbered
    by_cases defines : Defines used line
    · rw [definitionLines, if_pos defines, List.map_cons, List.nodup_cons]
      refine ⟨fun again => ?_, ih _⟩
      -- What comes later avoids the index of this line, because it is in use by then.
      obtain ⟨other, hother, same⟩ := List.mem_map.1 again
      have fresh := (mem_of_mem_definitionLines hother).2.2.2.2.1
      exact fresh (List.mem_append_right used (by simp [same]))
    · rw [definitionLines, if_neg defines]
      exact ih used

end BitmapFont.GlyphSource
