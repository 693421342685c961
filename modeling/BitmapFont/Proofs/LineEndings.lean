import BitmapFont.Proofs.Directives
import BitmapFont.Proofs.GlyphSource.Concatenation

/-!
# Line endings

A line may end in a line feed or in a carriage return and a line feed, and the last line may be left
without an end. Texts that differ in nothing else are read alike, as project files and as glyph
sources.

## Main definitions

- `Text.InsertsReturns` — carriage returns are put before line feeds
- `Text.EndsOtherwise` — the lines of a text are ended in other ways
-/

namespace BitmapFont

namespace Text

/-- Whether the second text is the first with carriage returns before some of its line feeds. -/
inductive InsertsReturns : List Char → List Char → Prop
  | nil : InsertsReturns [] []
  | keep (c : Char) {s s' : List Char} (rest : InsertsReturns s s') :
    InsertsReturns (c :: s) (c :: s')
  | insert {s s' : List Char} (rest : InsertsReturns s s') :
    InsertsReturns ('\n' :: s) ('\r' :: '\n' :: s')

/-- Whether the second text is the first with carriage returns before some of its line feeds, and
perhaps with another line feed at the end. -/
inductive EndsOtherwise (s : List Char) : List Char → Prop
  | returns {s' : List Char} (h : InsertsReturns s s') : EndsOtherwise s s'
  | returnsAndFeed {s' : List Char} (h : InsertsReturns s s') : EndsOtherwise s (s' ++ ['\n'])

theorem InsertsReturns.concat {s s' : List Char} (h : InsertsReturns s s') (c : Char) :
    InsertsReturns (s ++ [c]) (s' ++ [c]) := by
  induction h with
  | nil => exact .keep c .nil
  | keep d _ ih => exact .keep d ih
  | insert _ ih => exact .insert ih

theorem InsertsReturns.append_left {s s' : List Char} (h : InsertsReturns s s')
    (start : List Char) : InsertsReturns (start ++ s) (start ++ s') := by
  induction start with
  | nil => exact h
  | cons c _ ih => exact .keep c ih

/-! ### Lines from their first character -/

theorem dropReturn_cons {c : Char} (h : c ≠ '\r') (line : List Char) :
    dropReturn (c :: line) = c :: dropReturn line := by
  cases line with
  | nil => exact dropReturn_of_getLast?_ne (by simpa using h)
  | cons d rest => exact dropReturn_append [c] (List.cons_ne_nil d rest)

theorem lines_lineFeed_cons (s : List Char) : lines ('\n' :: s) = [] :: lines s :=
  lines_append_cons List.not_mem_nil s

theorem lines_return_lineFeed_cons (s : List Char) : lines ('\r' :: '\n' :: s) = [] :: lines s :=
  lines_append_cons (s := ['\r']) (by decide) s

/-- A character that takes no part in the end of a line belongs to the first line. -/
theorem lines_cons {c : Char} (noFeed : c ≠ '\n') (noReturn : c ≠ '\r') (s : List Char) :
    lines (c :: s) = (c :: (lines s).headD []) :: (lines s).tail := by
  by_cases feed : '\n' ∈ s
  · obtain ⟨before, after, rfl, single⟩ := List.eq_append_cons_of_mem feed
    have single' : '\n' ∉ c :: before := by simpa [Ne.symm noFeed] using single
    rw [← List.cons_append, lines_append_cons single', lines_append_cons single,
      dropReturn_cons noReturn]
    rfl
  · have feed' : '\n' ∉ c :: s := by simpa [Ne.symm noFeed] using feed
    rw [lines_eq_singleton feed' (List.cons_ne_nil c s)]
    cases s with
    | nil => rfl
    | cons d rest =>
      rw [lines_eq_singleton feed (List.cons_ne_nil d rest)]
      rfl

/-! ### Lines that are ended otherwise -/

variable {s s' : List Char}

/-- A carriage return before a line feed is not part of the line. -/
theorem InsertsReturns.lines_eq (h : InsertsReturns s s') (noReturn : '\r' ∉ s) :
    lines s' = lines s := by
  induction h with
  | nil => rfl
  | @keep c s s' _ ih =>
    obtain ⟨other, rest⟩ := not_or.1 (mt List.mem_cons.2 noReturn)
    by_cases feed : c = '\n'
    · rw [feed, lines_lineFeed_cons, lines_lineFeed_cons, ih rest]
    · rw [lines_cons feed (Ne.symm other), lines_cons feed (Ne.symm other), ih rest]
  | @insert s s' _ ih =>
    have rest : '\r' ∉ s := mt (List.mem_cons_of_mem _) noReturn
    rw [lines_return_lineFeed_cons, lines_lineFeed_cons, ih rest]

/-- Another line feed ends the last line, or it makes an empty one if the last line is ended
already. -/
theorem lines_concat_lineFeed (noReturn : '\r' ∉ s) :
    lines (s ++ ['\n']) = lines s ∨ lines (s ++ ['\n']) = lines s ++ [[]] := by
  induction s with
  | nil => exact Or.inr rfl
  | cons c s ih =>
    obtain ⟨other, rest⟩ := not_or.1 (mt List.mem_cons.2 noReturn)
    rw [List.cons_append]
    by_cases feed : c = '\n'
    · rw [feed, lines_lineFeed_cons, lines_lineFeed_cons]
      exact (ih rest).imp (congrArg ([] :: ·)) (congrArg ([] :: ·))
    · rw [lines_cons feed (Ne.symm other), lines_cons feed (Ne.symm other)]
      obtain same | more := ih rest
      · rw [same]
        exact Or.inl rfl
      · rw [more]
        -- Without a line after it the character is a line, and the line feed only ends this line.
        cases lines s with
        | nil => exact Or.inl rfl
        | cons first others => exact Or.inr rfl

/-- A text without carriage returns has the same lines if these are ended otherwise, but perhaps
another empty one after them. -/
theorem EndsOtherwise.lines_eq_or (h : EndsOtherwise s s') (noReturn : '\r' ∉ s) :
    lines s' = lines s ∨ lines s' = lines s ++ [[]] := by
  cases h with
  | returns inserted => exact Or.inl (inserted.lines_eq noReturn)
  | returnsAndFeed inserted =>
    have noReturn' : '\r' ∉ s ++ ['\n'] := by simpa using noReturn
    rw [(inserted.concat '\n').lines_eq noReturn']
    exact lines_concat_lineFeed noReturn

theorem numbered_concat {α : Type} (items : List α) (a : α) :
    numbered (items ++ [a]) = numbered items ++ [(1 + items.length, a)] :=
  numbered_append items [a]

end Text

/-! ### An empty line at the end -/

/-- Lines are read in two parts, the second with the directives of the first. -/
theorem Directives.scan_append (m : Directives) (lines more : List (Nat × List Char)) :
    m.scan (lines ++ more) =
      (((m.scan lines).1.scan more).1, (m.scan lines).2 ++ ((m.scan lines).1.scan more).2) := by
  induction lines generalizing m with
  | nil => rfl
  | cons numbered rest ih =>
    obtain ⟨n, line⟩ := numbered
    simp only [List.cons_append, scan, ih, List.append_assoc]

theorem Directives.scan_concat_nil (m : Directives) (lines : List (Nat × List Char)) (n : Nat) :
    m.scan (lines ++ [(n, [])]) = m.scan lines := by
  rw [scan_append]
  exact congrArg (Prod.mk _) (List.append_nil _)

theorem GlyphSource.readLines_concat_nil (settings : FontSettings) (used : IndexSet)
    (lines : List (Nat × List Char)) (n : Nat) :
    readLines settings used (lines ++ [(n, [])]) = readLines settings used lines := by
  rw [readLines_append]
  cases failed : (readLines settings used lines).failure with
  | some e => rfl
  | none =>
    have nothing : readLines settings (readLines settings used lines).used [(n, [])] =
        ⟨[], none, [], (readLines settings used lines).used⟩ := rfl
    simp only [nothing, Reading.andThen, List.append_nil, ← failed]

theorem Directives.ofText_of_endsOtherwise {t t' : String} (noReturn : '\r' ∉ t.toList)
    (otherwise : Text.EndsOtherwise t.toList t'.toList) : ofText t' = ofText t := by
  unfold ofText
  obtain same | more := otherwise.lines_eq_or noReturn
  · rw [same]
  · rw [more, Text.numbered_concat, scan_concat_nil]

theorem GlyphSource.readText_of_endsOtherwise {t t' : String} (noReturn : '\r' ∉ t.toList)
    (otherwise : Text.EndsOtherwise t.toList t'.toList) (settings : FontSettings)
    (used : IndexSet) : readText settings t' used = readText settings t used := by
  unfold readText
  obtain same | more := otherwise.lines_eq_or noReturn
  · rw [same]
  · rw [more, Text.numbered_concat, readLines_concat_nil]

/-- If the lines of a text without carriage returns are ended otherwise, some of them by a carriage
return and a line feed, and perhaps with a line feed more at the end, then the directives of the
text and the remarks on it are the same, and so are the items of the text as a glyph source and the
session after it. -/
theorem line_endings_do_not_matter {t t' : String} (noReturn : '\r' ∉ t.toList)
    (otherwise : Text.EndsOtherwise t.toList t'.toList) :
    (∀ before : Diagnostics, Directives.parse t' before = Directives.parse t before) ∧
      ∀ (settings : FontSettings) (session : Session),
        GlyphSource.read settings t' session = GlyphSource.read settings t session := by
  constructor
  · intro before
    rw [Directives.parse, Directives.ofText_of_endsOtherwise noReturn otherwise, Directives.parse]
  · intro settings session
    simp only [GlyphSource.read, GlyphSource.readText_of_endsOtherwise noReturn otherwise]

/-- An empty line and a glyph, whose ends get carriage returns, and a line without an equals sign,
which was not ended and is now. -/
theorem line_endings_do_not_matter_mixed :
    let settings : FontSettings := ⟨.ascii, .w8, 1, .white, "F"⟩
    let t := "\nA=00000001\nB"
    let t' := "\r\nA=00000001\r\nB\n"
    Directives.parse t' .empty = Directives.parse t .empty ∧
      GlyphSource.read settings t' .empty = GlyphSource.read settings t .empty := by
  intro settings t t'
  have glyph : t.toList = '\n' :: ("A=00000001".toList ++ ['\n', 'B']) := by decide
  have glyph' : t'.toList =
      '\r' :: '\n' :: ("A=00000001".toList ++ ['\r', '\n', 'B']) ++ ['\n'] := by decide
  have otherwise : Text.EndsOtherwise t.toList t'.toList := by
    rw [glyph, glyph']
    refine .returnsAndFeed (.insert ?_)
    exact (Text.InsertsReturns.insert (.keep 'B' .nil)).append_left _
  obtain ⟨parsed, read⟩ := line_endings_do_not_matter (by decide) otherwise
  exact ⟨parsed .empty, read settings .empty⟩

end BitmapFont
