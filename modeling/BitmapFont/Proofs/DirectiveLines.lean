import BitmapFont.Proofs.FirstDeclarations
import BitmapFont.Proofs.LineRemarks

/-!
# Lines of project files

Each line of a project file is a comment, declares a directive or is rejected, and unless it is a
comment there is exactly one remark on it. Of the lines that declare the same key the first one is
accepted and the others are rejected.

## Main definitions

- `Directives.Declares` — a line declares a directive
- `Directives.Verdict`, `Directives.Judged` — what becomes of a line after the lines before it
- `Directives.Verdicts` — the verdicts on all lines
-/

namespace BitmapFont.Directives

/-- Whether a line is blank or starts with two slashes, apart from the blanks around it. -/
def IsComment (line : List Char) : Prop :=
  Text.trim line = [] ∨ ['/', '/'] <+: Text.trim line

/-- Whether a line declares a key with a value: the trimmed texts around its first equals sign. -/
structure Declares (line : List Char) (key value : String) : Prop where
  noComment : ¬ IsComment line
  parts : ∃ before after, '=' ∉ before ∧ line = before ++ '=' :: after ∧
    Text.trim before = key.toList ∧ Text.trim after = value.toList
  nonempty : key ≠ ""

/-- What becomes of a line. -/
inductive Verdict
  | comment
  | unparsed
  | missingKey
  | repeated (key : String)
  | accepted (key value : String)

namespace Verdict

/-- The directive that is declared by an accepted line. -/
def entry? : Verdict → Option (String × String)
  | accepted key value => some (key, value)
  | _ => none

/-- Whether a line is rejected. -/
def rejects : Verdict → Bool
  | unparsed | missingKey | repeated _ => true
  | comment | accepted _ _ => false

/-- What is remarked on a numbered line. -/
def remark? : Verdict → Nat × List Char → Option Diagnostic
  | comment, _ => none
  | unparsed, (n, line) => some (.warn n s!"Unparsed key: {String.ofList line} at line {n}")
  | missingKey, (n, line) => some (.warn n s!"Missing key: {String.ofList line} at line {n}")
  | repeated key, (n, _) =>
    some (.error n (s!"Duplicated key detected at line {n}, key {key} is already declared. "
      ++ "New value will be ignored."))
  | accepted key value, (n, _) =>
    some (.debug n s!"Found key-value pair at line {n}: key {key}, value {value}")

theorem line_of_remark? (v : Verdict) (line : Nat × List Char) (d : Diagnostic)
    (h : v.remark? line = some d) : d.line = some line.1 := by
  cases v with
  | comment => exact nomatch h
  | unparsed => exact Option.some.inj h ▸ rfl
  | missingKey => exact Option.some.inj h ▸ rfl
  | repeated key => exact Option.some.inj h ▸ rfl
  | accepted key value => exact Option.some.inj h ▸ rfl

/-- The remarks on rejected lines are those that call for attention. -/
theorem isProblem_of_remark? (v : Verdict) (line : Nat × List Char) :
    (v.remark? line).toList.countP (·.level.isProblem) = if v.rejects then 1 else 0 := by
  cases v <;> rfl

end Verdict

/-- What becomes of a line after lines with the given verdicts. -/
inductive Judged (earlier : List Verdict) (line : List Char) : Verdict → Prop
  | comment (comment : IsComment line) : Judged earlier line .comment
  | unparsed (noComment : ¬ IsComment line) (noEquals : '=' ∉ line) :
    Judged earlier line .unparsed
  | missingKey (noComment : ¬ IsComment line) {before after : List Char} (first : '=' ∉ before)
    (parts : line = before ++ '=' :: after) (blank : Text.trim before = []) :
    Judged earlier line .missingKey
  | repeated {key value : String} (declares : Declares line key value)
    (old : ∃ value', .accepted key value' ∈ earlier) : Judged earlier line (.repeated key)
  | accepted {key value : String} (declares : Declares line key value)
    (new : ∀ value', .accepted key value' ∉ earlier) :
    Judged earlier line (.accepted key value)

/-- The verdicts on lines, one for each of them, after lines with the given verdicts. -/
inductive Verdicts : List Verdict → List (List Char) → List Verdict → Prop
  | nil {earlier : List Verdict} : Verdicts earlier [] []
  | cons {earlier : List Verdict} {line : List Char} {v : Verdict} {lines : List (List Char)}
    {vs : List Verdict} (first : Judged earlier line v)
    (others : Verdicts (earlier ++ [v]) lines vs) : Verdicts earlier (line :: lines) (v :: vs)

theorem statement_of_isComment {line : List Char} (h : IsComment line) :
    statement line = .nothing := by
  have said : Text.trim line = [] ∨ ['/', '/'].isPrefixOf (Text.trim line) = true :=
    h.imp_right List.isPrefixOf_iff_prefix.2
  exact if_pos said

theorem statement_of_not_isComment {line : List Char} (h : ¬ IsComment line) :
    statement line =
      match Text.cut? '=' line with
      | none => .unparsed
      | some (before, after) =>
        if Text.trim before = [] then .missingKey
        else .directive (Text.trim before) (Text.trim after) := by
  have said : ¬ (Text.trim line = [] ∨ ['/', '/'].isPrefixOf (Text.trim line) = true) :=
    fun said => h (said.imp_right List.isPrefixOf_iff_prefix.1)
  exact if_neg said

theorem declares_iff {line : List Char} {key value : String} :
    Declares line key value ↔ statement line = .directive key.toList value.toList := by
  constructor
  · rintro ⟨noComment, ⟨before, after, first, rfl, hkey, hvalue⟩, nonempty⟩
    have cut : Text.cut? '=' (before ++ '=' :: after) = some (before, after) :=
      Text.cut?_eq_some_iff.2 ⟨first, rfl⟩
    have named : key.toList ≠ [] := fun empty => nonempty (String.toList_eq_nil_iff.1 empty)
    rw [statement_of_not_isComment noComment, cut]
    simp only [hkey, hvalue, if_neg named]
  · intro said
    obtain ⟨before, after, first, same, hkey, hvalue, nonempty, -⟩ :=
      statement_eq_directive_iff.1 said
    refine ⟨fun comment => ?_, ⟨before, after, first, same, hkey, hvalue⟩, fun empty => ?_⟩
    · exact nomatch (statement_of_isComment comment).symm.trans said
    · exact nonempty (String.toList_eq_nil_iff.2 empty)

theorem lineValue?_eq_some_iff_declares {line : List Char} {key value : String} :
    lineValue? key line = some value ↔ Declares line key value :=
  lineValue?_eq_some_iff.trans declares_iff.symm

theorem lineValue?_eq_none_iff_declares {line : List Char} {key : String} :
    lineValue? key line = none ↔ ∀ value, ¬ Declares line key value := by
  simp only [Option.eq_none_iff_forall_ne_some, ne_eq, lineValue?_eq_some_iff_declares]

theorem mem_keys_iff {earlier : List Verdict} {key : String} :
    key ∈ (earlier.filterMap Verdict.entry?).map (·.1) ↔
      ∃ value, .accepted key value ∈ earlier := by
  simp only [List.mem_map, List.mem_filterMap, Prod.exists, exists_and_right, exists_eq_right]
  constructor
  · rintro ⟨value, v, hv, same⟩
    cases v with
    | accepted key' value' =>
      obtain ⟨rfl, rfl⟩ := Prod.mk.inj (Option.some.inj same)
      exact ⟨value', hv⟩
    | _ => exact nomatch same
  · rintro ⟨value, hv⟩
    exact ⟨value, _, hv, rfl⟩

theorem insert?_of_mem {m : Directives} {key : String} (old : key ∈ m.entries.map (·.1))
    (value : String) : m.insert? key value = none :=
  dif_neg fun free => get?_eq_none_iff.1 free old

/-- A line is judged by what it says and by the directives that were accepted before it. -/
theorem judged_scanLine {m : Directives} {earlier : List Verdict}
    (known : m.entries = earlier.filterMap Verdict.entry?) (n : Nat) (line : List Char) :
    ∃ v, Judged earlier line v ∧
      (m.scanLine n line).1.entries = m.entries ++ v.entry?.toList ∧
      (m.scanLine n line).2 = v.remark? (n, line) := by
  by_cases comment : IsComment line
  · refine ⟨.comment, .comment comment, ?_⟩
    rw [scanLine, statement_of_isComment comment]
    exact ⟨(List.append_nil _).symm, rfl⟩
  have said := statement_of_not_isComment comment
  cases cut : Text.cut? '=' line with
  | none =>
    rw [cut] at said
    have noEquals : '=' ∉ line := by
      rw [← Text.isSome_cut?, cut]
      exact Bool.false_ne_true
    refine ⟨.unparsed, .unparsed comment noEquals, ?_⟩
    rw [scanLine, said]
    exact ⟨(List.append_nil _).symm, rfl⟩
  | some parts =>
    obtain ⟨before, after⟩ := parts
    obtain ⟨first, same⟩ := Text.cut?_eq_some_iff.1 cut
    rw [cut] at said
    dsimp only at said
    by_cases blank : Text.trim before = []
    · refine ⟨.missingKey, .missingKey comment first same blank, ?_⟩
      rw [scanLine, said, if_pos blank]
      exact ⟨(List.append_nil _).symm, rfl⟩
    · rw [if_neg blank] at said
      have declares : Declares line (String.ofList (Text.trim before))
          (String.ofList (Text.trim after)) := by
        rw [declares_iff, said, String.toList_ofList, String.toList_ofList]
      -- Whether the key is new is told by the verdicts as well as by the directives.
      by_cases old : String.ofList (Text.trim before) ∈ m.entries.map (·.1)
      · refine ⟨_, .repeated declares (mem_keys_iff.1 (known ▸ old)), ?_⟩
        rw [scanLine, said]
        simp only [insert?_of_mem old]
        exact ⟨(List.append_nil _).symm, rfl⟩
      · obtain ⟨m', inserted, entries⟩ := exists_insert? old (String.ofList (Text.trim after))
        have new := fun value' hv => old (known ▸ mem_keys_iff.2 ⟨value', hv⟩)
        refine ⟨_, .accepted declares new, ?_⟩
        rw [scanLine, said]
        simp only [inserted]
        exact ⟨entries, rfl⟩

/-- The directives and the remarks of lines are those of their verdicts. -/
theorem verdicts_scan (m : Directives) (earlier : List Verdict)
    (known : m.entries = earlier.filterMap Verdict.entry?) (lines : List (Nat × List Char)) :
    ∃ vs, Verdicts earlier (lines.map (·.2)) vs ∧
      (scan m lines).1.entries = m.entries ++ vs.filterMap Verdict.entry? ∧
      (scan m lines).2 = remarksOn Verdict.remark? lines vs := by
  induction lines generalizing m earlier with
  | nil => exact ⟨[], .nil, (List.append_nil _).symm, rfl⟩
  | cons numbered rest ih =>
    obtain ⟨n, line⟩ := numbered
    obtain ⟨v, judged, entries, note⟩ := judged_scanLine known n line
    have extended : (earlier ++ [v]).filterMap Verdict.entry? =
        earlier.filterMap Verdict.entry? ++ v.entry?.toList := by
      rw [List.filterMap_append]
      cases v <;> rfl
    obtain ⟨vs, others, all, notes⟩ := ih (m.scanLine n line).1 (earlier ++ [v])
      (by rw [entries, known, extended])
    refine ⟨v :: vs, .cons judged others, ?_, ?_⟩
    · change (scan (m.scanLine n line).1 rest).1.entries = _
      rw [all, entries, List.append_assoc]
      cases v <;> rfl
    · rw [remarksOn_cons, ← note, ← notes]
      rfl

theorem countP_remarksOn {lines : List (Nat × List Char)} {vs : List Verdict}
    (h : vs.length ≤ lines.length) :
    (remarksOn Verdict.remark? lines vs).countP (·.level.isProblem) =
      vs.countP Verdict.rejects := by
  induction vs generalizing lines with
  | nil => simp
  | cons v vs ih =>
    cases lines with
    | nil => exact absurd h (by simp)
    | cons line lines =>
      rw [remarksOn_cons, List.countP_append, Verdict.isProblem_of_remark?,
        ih (Nat.le_of_succ_le_succ h), List.countP_cons, Nat.add_comm]

theorem Verdicts.length_eq {earlier vs : List Verdict} {lines : List (List Char)}
    (h : Verdicts earlier lines vs) : vs.length = lines.length := by
  induction h with
  | nil => rfl
  | cons _ _ ih => rw [List.length_cons, List.length_cons, ih]

/-- The value of a key is the one on the first line that declares it. -/
theorem get?_ofText_eq_some_iff {text key value : String} :
    (ofText text).1.get? key = some value ↔
      ∃ earlier line later, Text.lines text.toList = earlier ++ line :: later ∧
        Declares line key value ∧ ∀ other ∈ earlier, ∀ value', ¬ Declares other key value' := by
  simp only [get?_ofText, List.findSome?_eq_some_iff, lineValue?_eq_some_iff_declares,
    lineValue?_eq_none_iff_declares]

theorem get?_ofText_eq_none_iff {text key : String} :
    (ofText text).1.get? key = none ↔
      ∀ line ∈ Text.lines text.toList, ∀ value, ¬ Declares line key value := by
  simp only [get?_ofText, List.findSome?_eq_none_iff, lineValue?_eq_none_iff_declares]

/-- Every line of a project file has a verdict. A line is a comment, is rejected or declares a
directive, in which case it is accepted unless an accepted line before it declares the same key. On
each line but the comments there is one remark, with its number and in its place. The directives
are those of the accepted lines, so that the value of a key is the one on the first line that
declares it, and as many remarks as there are rejected lines call for attention. -/
theorem parse_accounts_for_every_line (text : String) (before : Diagnostics) :
    let lines := Text.lines text.toList
    let m := (parse text before).1
    let after := (parse text before).2
    ∃ vs : List Verdict, Verdicts [] lines vs ∧
      after = before.append (remarksOn Verdict.remark? (Text.numbered lines) vs) ∧
      (remarksOn Verdict.remark? (Text.numbered lines) vs).Pairwise Diagnostic.Precedes ∧
      m.entries = vs.filterMap Verdict.entry? ∧
      (m.entries.map (·.1)).Nodup ∧
      (∀ key value, m.get? key = some value ↔
        ∃ earlier line later, lines = earlier ++ line :: later ∧ Declares line key value ∧
          ∀ other ∈ earlier, ∀ value', ¬ Declares other key value') ∧
      (∀ key, m.get? key = none ↔ ∀ line ∈ lines, ∀ value, ¬ Declares line key value) ∧
      after.problemCount = before.problemCount + vs.countP Verdict.rejects := by
  intro lines m after
  have texts : (Text.numbered lines).map (·.2) = lines := Text.map_snd_numbered lines
  obtain ⟨vs, judged, entries, notes⟩ := verdicts_scan empty [] rfl (Text.numbered lines)
  rw [texts] at judged
  have said : after = before.append (remarksOn Verdict.remark? (Text.numbered lines) vs) := by
    rw [← notes]
    exact congrArg Prod.snd (parse_eq text before)
  refine ⟨vs, judged, said, ?_, entries, m.nodup_keys, fun key value => ?_, fun key => ?_, ?_⟩
  · exact pairwise_remarksOn Verdict.line_of_remark? (Text.pairwise_numbered lines) vs
  · exact get?_ofText_eq_some_iff
  · exact get?_ofText_eq_none_iff
  · have length : vs.length ≤ (Text.numbered lines).length := by
      rw [judged.length_eq, ← congrArg List.length texts, List.length_map]
    rw [said]
    simp only [Diagnostics.problemCount, Diagnostics.append, List.countP_append,
      countP_remarksOn length]

/-- A blank line counts as a line, and the second value of a key is rejected. -/
example : (parse "A=1\n\nB\nA=2\n" .empty).2.entries.map (fun d => (d.level, d.line)) =
    [(.debug, some 1), (.warning, some 3), (.error, some 4)] := by
  decide

end BitmapFont.Directives
