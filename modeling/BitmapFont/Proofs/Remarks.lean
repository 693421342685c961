import BitmapFont.Proofs.Directives
import BitmapFont.Proofs.GlyphSource.DefinitionLines
import BitmapFont.Proofs.Outcome
import BitmapFont.Project.Resolution

/-!
# Remarks

What may be remarked on a project file, on its project and on a glyph source. A remark on a text is
about one of its lines, a remark on a project is about none, and neither ends a compilation.

## Main definitions

- `Noted.AllNotes` — all remarks of a computation have a property
- `Diagnostic.OnLine` — a remark is about a line
- `Project.Remark` — what may be remarked when a project is settled
-/

namespace BitmapFont

namespace Noted

variable {ε α β δ : Type} {P : Diagnostic → Prop}

/-- Whether all remarks of a computation have a property. -/
def AllNotes (P : Diagnostic → Prop) (x : Noted ε α) : Prop :=
  ∀ d ∈ x.notes, P d

theorem allNotes_ofExcept (x : Except ε α) : (ofExcept x).AllNotes P := by
  intro d hd
  exact nomatch hd

theorem allNotes_pure (a : α) : (Pure.pure a : Noted ε α).AllNotes P :=
  allNotes_ofExcept (.ok a)

theorem allNotes_fail (e : ε) : (fail e : Noted ε α).AllNotes P :=
  allNotes_ofExcept (.error e)

theorem allNotes_noteAll {ds : List Diagnostic} (h : ∀ d ∈ ds, P d) :
    (noteAll ds : Noted ε Unit).AllNotes P := h

theorem allNotes_note {d : Diagnostic} (h : P d) : (note d : Noted ε Unit).AllNotes P :=
  List.forall_mem_singleton.2 h

theorem AllNotes.mapError {x : Noted ε α} (h : x.AllNotes P) (f : ε → δ) :
    (x.mapError f).AllNotes P := h

/-- The remarks of two steps are those of the first and those of the second. -/
theorem AllNotes.bind {x : Noted ε α} {next : α → Noted ε β} (hx : x.AllNotes P)
    (hnext : ∀ a, x.result = .ok a → (next a).AllNotes P) : (x >>= next).AllNotes P := by
  cases first : x.result with
  | error e =>
    rw [bind_eq_of_error first]
    exact hx
  | ok a =>
    rw [bind_eq_of_ok first]
    intro d hd
    obtain before | after := List.mem_append.1 hd
    · exact hx d before
    · exact hnext a first d after

theorem AllNotes.note_bind {d : Diagnostic} (h : P d) {rest : Noted ε α} (hrest : rest.AllNotes P) :
    (note d >>= fun _ => rest).AllNotes P :=
  (allNotes_note h).bind fun _ _ => hrest

end Noted

/-- Whether a remark is about a line of a text and does not end a compilation. -/
def Diagnostic.OnLine (d : Diagnostic) : Prop :=
  d.line.isSome ∧ d.level ≠ .fatal

theorem Diagnostic.onLine_warn (n : Nat) (message : String) : (warn n message).OnLine :=
  ⟨rfl, nofun⟩

theorem Diagnostic.onLine_debug (n : Nat) (message : String) : (debug n message).OnLine :=
  ⟨rfl, nofun⟩

namespace Directives

theorem onLine_of_scanLine {m : Directives} {n : Nat} {line : List Char} {d : Diagnostic}
    (h : d ∈ (m.scanLine n line).2) : d.OnLine := by
  unfold scanLine at h
  split at h
  case h_1 => exact nomatch h
  case h_2 =>
    obtain rfl := Option.some.inj h
    exact Diagnostic.onLine_warn n _
  case h_3 =>
    obtain rfl := Option.some.inj h
    exact Diagnostic.onLine_warn n _
  case h_4 =>
    dsimp only at h
    split at h
    case h_1 =>
      obtain rfl := Option.some.inj h
      exact ⟨rfl, nofun⟩
    case h_2 =>
      obtain rfl := Option.some.inj h
      exact Diagnostic.onLine_debug n _

theorem onLine_of_scan {m : Directives} {lines : List (Nat × List Char)} :
    ∀ d ∈ (scan m lines).2, d.OnLine := by
  induction lines generalizing m with
  | nil => exact nofun
  | cons numbered rest ih =>
    intro d hd
    obtain first | later := List.mem_append.1 hd
    · exact onLine_of_scanLine (Option.mem_toList.1 first)
    · exact ih d later

end Directives

namespace GlyphSource

/-- Each remark on a glyph source is about one of its lines. -/
theorem onLine_of_readLines {settings : FontSettings} {used : IndexSet}
    {lines : List (Nat × List Char)} : ∀ d ∈ (readLines settings used lines).notes, d.OnLine := by
  induction lines generalizing used with
  | nil => exact nofun
  | cons numbered rest ih =>
    obtain ⟨n, line⟩ := numbered
    intro d hd
    by_cases defines : Defines used.order line
    · rw [readLines_cons_of_defines defines] at hd
      have start : (startNote n line).OnLine := Diagnostic.onLine_debug n _
      split at hd
      case h_1 =>
        obtain rfl := List.mem_singleton.1 hd
        exact start
      case h_2 =>
        obtain rfl | later := List.mem_cons.1 hd
        · exact start
        · exact ih d later
    · obtain ⟨reason, _, same⟩ := readLines_cons_of_not_defines settings defines
      rw [same] at hd
      obtain first | later := List.mem_append.1 hd
      · obtain ⟨message, rfl⟩ := SkipReason.exists_message (Option.mem_toList.1 first)
        exact Diagnostic.onLine_warn n message
      · exact ih d later

end GlyphSource

namespace Project

open Noted (AllNotes)

/-- What may be remarked when a project is settled: a value that was settled, or one that was
missing or could not be used and what took its place. -/
inductive Remark : Diagnostic → Prop
  | settled (message : String) : Remark (.info message)
  | noGlyphFile (file : Path) :
    Remark (.warn none s!"FONT_FILE is not set. Trying {file.text}")
  | besideProject (path fallback : Path) :
    Remark (.warn none
      s!"Font file {path.text} not found. Using {fallback.text} next to the project file.")
  | notByte (key : Key) (value : String) :
    Remark (.warn none (s!"Invalid {key.name} found: {value} is not a valid UInt8 value. "
      ++ "Set to default value 255."))
  | notStorable (name stored : String) :
    Remark (.warn none (s!"FONT_NAME {Text.quoted name} is not ASCII. "
      ++ s!"It will be stored as {Text.quoted stored}."))

theorem Remark.level_ne_fatal {d : Diagnostic} (h : Remark d) : d.level ≠ .fatal := by
  cases h <;> exact nofun

/-! Settling a required value is only ever remarked as information. -/

section Required

variable {P : Diagnostic → Prop}

theorem allNotes_settled {α : Type} {message : String} (h : P (.info message)) (a : α) : ((do
    .note (.info message)
    return a : Noted ProjectError α)).AllNotes P :=
  AllNotes.note_bind h (Noted.allNotes_pure a)

theorem allNotes_required (directives : Directives) (key : Key) :
    (required directives key).AllNotes P := by
  unfold required
  split
  · exact Noted.allNotes_pure _
  · exact Noted.allNotes_fail _

theorem allNotes_requiredByte (directives : Directives) (key : Key) :
    (requiredByte directives key).AllNotes P := by
  refine .bind (allNotes_required directives key) fun value _ => ?_
  split
  · exact Noted.allNotes_pure _
  · exact Noted.allNotes_fail _

theorem allNotes_charset (settled : ∀ message, P (.info message)) (directives : Directives) :
    (charset directives).AllNotes P := by
  refine .bind (allNotes_required directives .charset) fun value _ => ?_
  dsimp only
  split
  · exact allNotes_settled (settled _) _
  · exact Noted.allNotes_fail _

theorem allNotes_width (settled : ∀ message, P (.info message)) (directives : Directives) :
    (width directives).AllNotes P := by
  refine .bind (allNotes_requiredByte directives .fontWidth) fun bits _ => ?_
  split
  · exact allNotes_settled (settled _) _
  · exact Noted.allNotes_fail _

theorem allNotes_height (settled : ∀ message, P (.info message)) (directives : Directives) :
    (height directives).AllNotes P := by
  refine .bind (allNotes_requiredByte directives .fontHeight) fun height _ => ?_
  exact allNotes_settled (settled _) _

end Required

theorem remarks_locate (directives : Directives) (projectPath workingDir : Path)
    (fs : FileSystem) : (locate directives projectPath workingDir fs).AllNotes Remark := by
  apply AllNotes.bind
  · unfold requestedFile
    split
    · exact Noted.allNotes_pure _
    · split
      · exact Noted.allNotes_fail _
      · exact AllNotes.note_bind (.noGlyphFile _) (Noted.allNotes_pure _)
  · intro file _
    dsimp only
    split
    · exact allNotes_settled (.settled _) _
    · split
      · exact AllNotes.note_bind (Remark.besideProject _ _) (allNotes_settled (.settled _) _)
      · exact Noted.allNotes_fail _

theorem remarks_colorComponent (directives : Directives) (key : Key) :
    (colorComponent directives key).AllNotes Remark := by
  unfold colorComponent
  split
  · exact allNotes_settled (.settled _) _
  · split
    · exact allNotes_settled (.settled _) _
    · exact AllNotes.note_bind (.notByte key _) (Noted.allNotes_pure _)

theorem remarks_color (directives : Directives) : (color directives).AllNotes Remark := by
  apply (remarks_colorComponent directives .red).bind
  intro red _
  apply (remarks_colorComponent directives .green).bind
  intro green _
  apply (remarks_colorComponent directives .blue).bind
  intro blue _
  exact Noted.allNotes_pure _

theorem remarks_fontName (directives : Directives) : (fontName directives).AllNotes Remark := by
  apply AllNotes.bind
  · unfold requestedName
    split
    · exact Noted.allNotes_pure _
    · exact allNotes_settled (.settled _) _
  · intro name _
    dsimp only
    split
    · exact AllNotes.note_bind (.notStorable name _) (allNotes_settled (.settled _) _)
    · exact allNotes_settled (.settled _) _

/-- Whether or not a project is settled, no other remarks are made about it. -/
theorem remarks_resolve (directives : Directives) (projectPath workingDir : Path)
    (fs : FileSystem) : (resolve directives projectPath workingDir fs).AllNotes Remark := by
  apply (remarks_locate directives projectPath workingDir fs).bind
  intro glyphFile _
  refine .bind (allNotes_charset .settled directives) fun charset _ => ?_
  refine .bind (allNotes_width .settled directives) fun width _ => ?_
  refine .bind (allNotes_height .settled directives) fun height _ => ?_
  apply (remarks_color directives).bind
  intro color _
  apply (remarks_fontName directives).bind
  intro name _
  exact Noted.allNotes_pure _

end Project

end BitmapFont
