import BitmapFont.Directives
import BitmapFont.Proofs.Text.Cutting
import BitmapFont.Proofs.Text.Trimming

/-!
# Directives as text

Directives are read back from the text that declares them if and only if each of them fits on a line
of its own. The directives of a text always do, whatever else the text says.

## Main definitions

- `Directives.IsKey`, `Directives.IsValue` — the keys and the values that a line can declare
- `Directives.Expressible` — directives that can be written down
- `Directives.found` — what is said about a line with a new directive
-/

namespace BitmapFont.Directives

/-- Whether a line can declare a key. -/
structure IsKey (key : List Char) : Prop where
  nonempty : key ≠ []
  trimmed : Text.Trimmed key
  noEquals : '=' ∉ key
  noLineFeed : '\n' ∉ key
  noComment : ¬ ['/', '/'] <+: key

/-- Whether a line can give a value to a key. -/
structure IsValue (value : List Char) : Prop where
  trimmed : Text.Trimmed value
  noLineFeed : '\n' ∉ value

/-- Whether each directive fits on a line of its own. -/
def Expressible (m : Directives) : Prop :=
  ∀ entry ∈ m.entries, IsKey entry.1.toList ∧ IsValue entry.2.toList

/-- The line that declares a directive. -/
def declaration (entry : String × String) : List Char :=
  entry.1.toList ++ '=' :: entry.2.toList

/-- What is said about a line with a number if it declares a new directive. -/
def found (line : Nat × String × String) : Diagnostic :=
  .debug line.1 s!"Found key-value pair at line {line.1}: key {line.2.1}, value {line.2.2}"

theorem eq_of_entries {m m' : Directives} (h : m.entries = m'.entries) : m = m' := by
  cases m
  cases m'
  simpa using h

theorem entries_of_insert? {m m' : Directives} {key value : String}
    (h : m.insert? key value = some m') : m'.entries = m.entries ++ [(key, value)] := by
  unfold insert? at h
  split at h
  case isTrue =>
    obtain rfl := Option.some.inj h
    rfl
  case isFalse => exact nomatch h

theorem exists_insert? {m : Directives} {key : String} (fresh : key ∉ m.entries.map (·.1))
    (value : String) :
    ∃ m', m.insert? key value = some m' ∧ m'.entries = m.entries ++ [(key, value)] := by
  have free := get?_eq_none_iff.2 fresh
  refine ⟨_, dif_pos free, rfl⟩

theorem parse_eq (text : String) (before : Diagnostics) :
    parse text before = ((ofText text).1, before.append (ofText text).2) := by
  rw [parse]

theorem isBlank_equals : Text.isBlank '=' = false := by decide

theorem comment_of_prefix_append_equals {key after : List Char} (nonempty : key ≠ [])
    (h : ['/', '/'] <+: key ++ '=' :: after) : ['/', '/'] <+: key := by
  obtain ⟨rest, same⟩ := h
  match key, nonempty with
  | [first], _ =>
    -- The second slash would be the equals sign.
    have second := (List.cons.inj (List.cons.inj same).2).1
    exact absurd second (by decide)
  | first :: second :: others, _ =>
    obtain ⟨rfl, tail⟩ := List.cons.inj same
    obtain ⟨rfl, _⟩ := List.cons.inj tail
    exact ⟨others, rfl⟩

theorem comment_trimRight {s : List Char} (h : ['/', '/'] <+: s) :
    ['/', '/'] <+: Text.trimRight s := by
  obtain ⟨rest, rfl⟩ := h
  have slash : Text.isBlank '/' = false := by decide
  exact ⟨Text.trimRight rest, (Text.trimRight_append_cons slash ['/'] rest).symm⟩

/-- A line declares a directive if it has an equals sign and a key before the first one, and the key
does not start like a comment. -/
theorem statement_eq_directive_iff {line key value : List Char} :
    statement line = .directive key value ↔
      ∃ before after, '=' ∉ before ∧ line = before ++ '=' :: after ∧ Text.trim before = key ∧
        Text.trim after = value ∧ key ≠ [] ∧ ¬ ['/', '/'] <+: key := by
  constructor
  · intro h
    unfold statement at h
    dsimp only at h
    split at h
    case isTrue => exact nomatch h
    case isFalse said =>
      split at h
      case h_1 => exact nomatch h
      case h_2 before after cut =>
        split at h
        case isTrue => exact nomatch h
        case isFalse nonempty =>
          obtain ⟨rfl, rfl⟩ := Statement.directive.inj h
          obtain ⟨noEquals, rfl⟩ := Text.cut?_eq_some_iff.1 cut
          refine ⟨before, after, noEquals, rfl, rfl, rfl, nonempty, ?_⟩
          -- A key that starts with two slashes would make the line a comment.
          intro comment
          refine said (Or.inr (List.isPrefixOf_iff_prefix.2 ?_))
          rw [Text.trim_append_cons isBlank_equals]
          have start := Text.trimRight_isPrefix (Text.trimLeft before)
          exact (comment.trans start).trans (List.prefix_append _ _)
  · rintro ⟨before, after, noEquals, rfl, rfl, rfl, nonempty, noComment⟩
    have cut : Text.cut? '=' (before ++ '=' :: after) = some (before, after) :=
      Text.cut?_eq_some_iff.2 ⟨noEquals, rfl⟩
    have said : ¬ (Text.trim (before ++ '=' :: after) = [] ∨
        ['/', '/'].isPrefixOf (Text.trim (before ++ '=' :: after)) = true) := by
      rw [Text.trim_append_cons isBlank_equals, List.isPrefixOf_iff_prefix]
      rintro (empty | comment)
      · exact absurd empty (by simp)
      · have start : Text.trimLeft before ≠ [] := fun empty => nonempty (by rw [Text.trim, empty]; rfl)
        exact noComment (comment_trimRight (comment_of_prefix_append_equals start comment))
    simp only [statement, said, if_false, cut, nonempty]

/-- A key and a value that fit on a line are what the line says. -/
theorem statement_of_isKey {key value : List Char} (hkey : IsKey key) (hvalue : IsValue value) :
    statement (key ++ '=' :: value) = .directive key value :=
  statement_eq_directive_iff.2 ⟨key, value, hkey.noEquals, rfl, hkey.trimmed.trim_eq,
    hvalue.trimmed.trim_eq, hkey.nonempty, hkey.noComment⟩

/-- What a line says fits on a line. -/
theorem isKey_of_statement {line key value : List Char} (single : '\n' ∉ line)
    (h : statement line = .directive key value) : IsKey key ∧ IsValue value := by
  obtain ⟨before, after, noEquals, rfl, rfl, rfl, nonempty, noComment⟩ :=
    statement_eq_directive_iff.1 h
  rw [List.mem_append, List.mem_cons] at single
  refine ⟨⟨nonempty, Text.trimmed_trim before, ?_, ?_, noComment⟩, Text.trimmed_trim after, ?_⟩
  · exact fun equals => noEquals (Text.mem_of_mem_trim equals)
  · exact fun feed => single (Or.inl (Text.mem_of_mem_trim feed))
  · exact fun feed => single (Or.inr (Or.inr (Text.mem_of_mem_trim feed)))

/-- A line with a new directive adds it, and is remarked upon. -/
theorem scanLine_declaration {m : Directives} {entry : String × String}
    (hkey : IsKey entry.1.toList) (hvalue : IsValue entry.2.toList)
    (fresh : entry.1 ∉ m.entries.map (·.1)) (n : Nat) :
    ∃ m', m'.entries = m.entries ++ [entry] ∧
      m.scanLine n (declaration entry) = (m', some (found (n, entry))) := by
  obtain ⟨m', inserted, entries⟩ := exists_insert? fresh entry.2
  refine ⟨m', entries, ?_⟩
  simp only [scanLine, declaration, statement_of_isKey hkey hvalue, String.ofList_toList, inserted]
  rfl

/-- Lines with new directives add them in their order, and each is remarked upon. -/
theorem scan_declarations {m : Directives} {lines : List (Nat × String × String)}
    (fit : ∀ line ∈ lines, IsKey line.2.1.toList ∧ IsValue line.2.2.toList)
    (nodup : (m.entries.map (·.1) ++ lines.map (·.2.1)).Nodup) :
    (scan m (lines.map (Prod.map id declaration))).1.entries =
        m.entries ++ lines.map (·.2) ∧
      (scan m (lines.map (Prod.map id declaration))).2 =
        lines.map found := by
  -- The keys to come differ from each other and from those declared so far.
  induction lines generalizing m with
  | nil => simp [scan]
  | cons line rest ih =>
    obtain ⟨n, entry⟩ := line
    obtain ⟨⟨hkey, hvalue⟩, others⟩ := List.forall_mem_cons.1 fit
    have fresh : entry.1 ∉ m.entries.map (·.1) := by
      intro old
      exact (List.nodup_append.1 nodup).2.2 _ old _ (by simp) rfl
    obtain ⟨m', entries, scanned⟩ := scanLine_declaration hkey hvalue fresh n
    have later : (m'.entries.map (·.1) ++ rest.map (·.2.1)).Nodup := by
      rw [entries, List.map_append, List.append_assoc]
      exact nodup
    obtain ⟨all, notes⟩ := ih others later
    simp only [List.map_cons, Prod.map, id_eq, scan, scanned, all, notes, entries]
    exact ⟨by simp, rfl⟩

theorem toList_source (m : Directives) :
    m.source.toList = (m.entries.map declaration).flatMap (· ++ ['\n']) := by
  simp [source, String.toList_join, List.flatMap_map, declaration]

/-- A directive on a line of its own is the whole line: no part of it is taken for the line's end. -/
theorem dropReturn_declaration {entry : String × String} (hvalue : IsValue entry.2.toList) :
    Text.dropReturn (declaration entry) = declaration entry := by
  apply Text.dropReturn_of_getLast?_ne
  intro last
  rw [declaration, List.getLast?_append, List.getLast?_cons, Option.some_or] at last
  cases value : entry.2.toList.getLast? with
  | none =>
    rw [value] at last
    exact absurd last (by decide)
  | some c =>
    have kept := hvalue.trimmed.2 c value
    rw [value] at last
    obtain rfl : c = '\r' := by simpa using last
    exact absurd kept (by decide)

theorem lines_source {m : Directives} (h : m.Expressible) :
    Text.lines m.source.toList = m.entries.map declaration := by
  have single : ∀ line ∈ m.entries.map declaration, '\n' ∉ line := by
    intro line hline feed
    obtain ⟨entry, hentry, rfl⟩ := List.mem_map.1 hline
    obtain ⟨hkey, hvalue⟩ := h entry hentry
    obtain inKey | inValue : '\n' ∈ entry.1.toList ∨ '\n' ∈ entry.2.toList := by
      simpa [declaration] using feed
    · exact hkey.noLineFeed inKey
    · exact hvalue.noLineFeed inValue
  rw [toList_source, Text.lines_flatMap_lineFeed single, List.map_map]
  refine List.map_congr_left fun entry hentry => ?_
  exact dropReturn_declaration (h entry hentry).2

/-- Expressible directives are read back, and nothing else is said about their text. -/
theorem ofText_source {m : Directives} (h : m.Expressible) :
    ofText m.source = (m, (Text.numbered m.entries).map found) := by
  have keys : (Text.numbered m.entries).map (·.2) = m.entries := Text.map_snd_numbered m.entries
  have fit : ∀ line ∈ Text.numbered m.entries,
      IsKey line.2.1.toList ∧ IsValue line.2.2.toList := by
    intro line hline
    exact h line.2 (keys ▸ List.mem_map_of_mem hline)
  have nodup : (empty.entries.map (·.1) ++ (Text.numbered m.entries).map (·.2.1)).Nodup := by
    have same : (Text.numbered m.entries).map (·.2.1) = m.entries.map (·.1) := by
      rw [← congrArg (List.map (·.1)) keys, List.map_map]
      rfl
    rw [same]
    exact m.nodup_keys
  obtain ⟨entries, notes⟩ := scan_declarations fit nodup
  rw [ofText, lines_source h, Text.numbered_map]
  rw [keys] at entries
  exact Prod.ext (eq_of_entries entries) notes

/-- A line keeps directives expressible. -/
theorem Expressible.scanLine {m : Directives} (h : m.Expressible) {n : Nat} {line : List Char}
    (single : '\n' ∉ line) : (m.scanLine n line).1.Expressible := by
  unfold Directives.scanLine
  split
  case h_4 key value said =>
    dsimp only
    split
    case h_1 => exact h
    case h_2 extended inserted =>
      have fit := isKey_of_statement single said
      rw [Expressible, entries_of_insert? inserted]
      intro entry hentry
      obtain old | new := List.mem_append.1 hentry
      · exact h entry old
      · obtain rfl := List.mem_singleton.1 new
        simpa using fit
  all_goals exact h

theorem Expressible.scan {m : Directives} (h : m.Expressible) {lines : List (Nat × List Char)}
    (single : ∀ line ∈ lines, '\n' ∉ line.2) : (scan m lines).1.Expressible := by
  induction lines generalizing m with
  | nil => exact h
  | cons line rest ih =>
    obtain ⟨first, others⟩ := List.forall_mem_cons.1 single
    exact ih (h.scanLine first) others

/-- The directives of every text are expressible. -/
theorem expressible_ofText (text : String) : (ofText text).1.Expressible := by
  have start : empty.Expressible := by
    intro entry hentry
    exact nomatch hentry
  refine start.scan fun line hline => Text.lineFeed_not_mem_of_mem_lines (s := text.toList) ?_
  rw [← Text.map_snd_numbered (Text.lines text.toList)]
  exact List.mem_map_of_mem hline

/-- Directives are read back from their text, in the same order, if and only if each of them fits on
a line of its own. Those of any text do. When they are read back, there is one remark for each of
them, on its line, and none of another kind. -/
theorem source_round_trip :
    (∀ (m : Directives) (before : Diagnostics),
      (parse m.source before).1 = m ↔ m.Expressible) ∧
    (∀ (text : String) (before : Diagnostics), (parse text before).1.Expressible) ∧
    ∀ (m : Directives) (before : Diagnostics), m.Expressible →
      (parse m.source before).2 = before.append ((Text.numbered m.entries).map found) := by
  refine ⟨fun m before => ⟨fun same => ?_, fun h => ?_⟩, fun text before => ?_, fun m before h => ?_⟩
  · -- What was read is expressible, so nothing else can be read back.
    rw [← same, parse_eq]
    exact expressible_ofText m.source
  · rw [parse_eq, ofText_source h]
  · rw [parse_eq]
    exact expressible_ofText text
  · rw [parse_eq, ofText_source h]

/-- Two directives that are read back, with an equals sign and a slash where they do no harm. A key
that looks like a comment is lost. -/
theorem source_round_trip_two_entries :
    (parse "a b=1=2\n/=//\n" .empty).2 =
        ⟨[.debug (some 1) "Found key-value pair at line 1: key a b, value 1=2",
          .debug (some 2) "Found key-value pair at line 2: key /, value //"]⟩ ∧
      (parse "//=x\n" .empty).1 ≠ ⟨[("//", "x")], by decide⟩ := by
  let kept : Directives := ⟨[("a b", "1=2"), ("/", "//")], by decide⟩
  have trimmed : ∀ s ∈ ["a b", "1=2", "/", "//"], Text.Trimmed s.toList := by
    simp [Text.Trimmed]
    decide
  have first : IsKey "a b".toList ∧ IsValue "1=2".toList :=
    ⟨⟨by decide, trimmed _ (by simp), by decide, by decide, by decide⟩,
      trimmed _ (by simp), by decide⟩
  have second : IsKey "/".toList ∧ IsValue "//".toList :=
    ⟨⟨by decide, trimmed _ (by simp), by decide, by decide, by decide⟩,
      trimmed _ (by simp), by decide⟩
  have fit : kept.Expressible :=
    List.forall_mem_cons.2 ⟨first, List.forall_mem_cons.2 ⟨second, fun _ hentry => nomatch hentry⟩⟩
  have lost : ¬ Expressible ⟨[("//", "x")], by decide⟩ := by
    intro h
    exact (h _ List.mem_cons_self).1.noComment (by decide)
  constructor
  · have text : kept.source = "a b=1=2\n/=//\n" := by decide
    rw [← text, source_round_trip.2.2 kept .empty fit]
    decide
  · intro same
    have text : source ⟨[("//", "x")], by decide⟩ = "//=x\n" := by decide
    exact lost ((source_round_trip.1 _ .empty).1 (text ▸ same))

end BitmapFont.Directives
