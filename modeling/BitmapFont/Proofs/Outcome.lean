import BitmapFont.Noted
import Mathlib.Data.List.Forall2

/-!
# Outcomes of computations that may fail

A computation of several steps succeeds exactly when each of its steps does. These laws take such a
computation apart without unfolding the steps.
-/

namespace BitmapFont

variable {ε α β : Type}

/-- Two steps give a value if the first one gives a value with which the second gives it. -/
theorem bind_eq_ok_iff {x : Except ε α} {next : α → Except ε β} {b : β} :
    x >>= next = .ok b ↔ ∃ a, x = .ok a ∧ next a = .ok b := by
  cases x with
  | error e => simp [bind, Except.bind]
  | ok a => simp [bind, Except.bind]

/-- Two steps give an error if one of them does, the second after a value of the first. -/
theorem bind_eq_error_iff {x : Except ε α} {next : α → Except ε β} {e : ε} :
    x >>= next = .error e ↔ x = .error e ∨ ∃ a, x = .ok a ∧ next a = .error e := by
  cases x with
  | error e' => simp [bind, Except.bind]
  | ok a => simp [bind, Except.bind]

theorem pure_eq_ok_iff {a b : α} : (pure a : Except ε α) = .ok b ↔ a = b := by
  simp [pure, Except.pure]

theorem pure_ne_error (a : α) (e : ε) : (pure a : Except ε α) ≠ .error e := by
  simp [pure, Except.pure]

theorem ne_ok_of_error {x : Except ε α} {e : ε} (h : x = .error e) (a : α) : x ≠ .ok a := by
  simp [h]

theorem exists_ok_iff {x : Except ε α} : (∃ a, x = .ok a) ↔ ∀ e, x ≠ .error e := by
  cases x with
  | error e => simp
  | ok a => simp

theorem exists_error_iff {x : Except ε α} : (∃ e, x = .error e) ↔ ∀ a, x ≠ .ok a := by
  cases x with
  | error e => simp
  | ok a => simp

/-- A value that may be missing. -/
theorem elim_eq_ok_iff {o : Option α} {e : ε} {a : α} :
    o.elim (.error e) .ok = (.ok a : Except ε α) ↔ o = some a := by
  cases o with
  | none => simp
  | some b => simp

theorem elim_eq_error_iff {o : Option α} {e e' : ε} :
    o.elim (.error e) .ok = (.error e' : Except ε α) ↔ o = none ∧ e' = e := by
  cases o with
  | none => simp [eq_comm]
  | some b => simp

/-- A step that is left with an error under a condition. -/
theorem ite_throw_eq_ok_iff {c : Prop} [Decidable c] {e : ε} {next : PUnit → Except ε α}
    {x : Except ε α} {a : α} :
    (if c then throw e >>= next else x) = .ok a ↔ ¬ c ∧ x = .ok a := by
  by_cases failed : c
  · rw [if_pos failed]
    exact ⟨fun h => (nomatch h), fun h => absurd failed h.1⟩
  · rw [if_neg failed]
    exact ⟨fun h => ⟨failed, h⟩, fun h => h.2⟩

theorem mapError_eq_ok_iff {δ : Type} {f : ε → δ} {x : Except ε α} {a : α} :
    x.mapError f = .ok a ↔ x = .ok a := by
  cases x with
  | error e => simp [Except.mapError]
  | ok b => simp [Except.mapError]

theorem mapError_eq_error_iff {δ : Type} {f : ε → δ} {x : Except ε α} {d : δ} :
    x.mapError f = .error d ↔ ∃ e, x = .error e ∧ f e = d := by
  cases x with
  | error e => simp [Except.mapError]
  | ok a => simp [Except.mapError]

theorem mapError_bind {δ : Type} (f : ε → δ) (x : Except ε α) (next : α → Except ε β) :
    (x >>= next).mapError f = x.mapError f >>= fun a => (next a).mapError f := by
  cases x <;> rfl

theorem mapM_mapError {δ : Type} (g : ε → δ) (f : α → Except ε β) (items : List α) :
    items.mapM (fun a => (f a).mapError g) = (items.mapM f).mapError g := by
  induction items with
  | nil => rfl
  | cons a rest ih =>
    simp only [List.mapM_cons, ih, mapError_bind]
    rfl

@[simp] theorem Noted.result_ofExcept (x : Except ε α) : (Noted.ofExcept x).result = x := rfl

@[simp] theorem Noted.result_mapError {δ : Type} (f : ε → δ) (x : Noted ε α) :
    (x.mapError f).result = x.result.mapError f := rfl

@[simp] theorem Noted.result_note (d : Diagnostic) :
    (Noted.note d : Noted ε Unit).result = .ok () := rfl

@[simp] theorem Noted.result_noteAll (ds : List Diagnostic) :
    (Noted.noteAll ds : Noted ε Unit).result = .ok () := rfl

@[simp] theorem Noted.notes_ofExcept (x : Except ε α) : (Noted.ofExcept x).notes = [] := rfl

@[simp] theorem Noted.notes_mapError {δ : Type} (f : ε → δ) (x : Noted ε α) :
    (x.mapError f).notes = x.notes := rfl

@[simp] theorem Noted.notes_note (d : Diagnostic) :
    (Noted.note d : Noted ε Unit).notes = [d] := rfl

@[simp] theorem Noted.notes_noteAll (ds : List Diagnostic) :
    (Noted.noteAll ds : Noted ε Unit).notes = ds := rfl

/-- What is remarked on the way does not matter to the outcome of two steps. -/
theorem Noted.result_bind (x : Noted ε α) (next : α → Noted ε β) :
    (x >>= next).result = x.result >>= fun a => (next a).result := by
  cases first : x.result with
  | error e =>
    rw [Noted.bind_eq_of_error first]
    rfl
  | ok a =>
    rw [Noted.bind_eq_of_ok first]
    rfl

/-- A computation that makes remarks gives a value if both of its steps do. -/
theorem Noted.bind_eq_ok_iff {x : Noted ε α} {next : α → Noted ε β} {b : β} :
    (x >>= next).result = .ok b ↔ ∃ a, x.result = .ok a ∧ (next a).result = .ok b := by
  rw [Noted.result_bind, BitmapFont.bind_eq_ok_iff]

/-- A computation that makes remarks gives up if one of its steps does. -/
theorem Noted.bind_eq_error_iff {x : Noted ε α} {next : α → Noted ε β} {e : ε} :
    (x >>= next).result = .error e ↔
      x.result = .error e ∨ ∃ a, x.result = .ok a ∧ (next a).result = .error e := by
  rw [Noted.result_bind, BitmapFont.bind_eq_error_iff]

/-- After a step only its value matters to the next. -/
theorem Noted.bind_congr {x : Noted ε α} {next next' : α → Noted ε β}
    (h : ∀ a, x.result = .ok a → next a = next' a) : x >>= next = x >>= next' := by
  cases first : x.result with
  | error e => rw [Noted.bind_eq_of_error first, Noted.bind_eq_of_error first]
  | ok a => rw [Noted.bind_eq_of_ok first, Noted.bind_eq_of_ok first, h a first]

/-- A list is split at its first member, or after it. -/
theorem exists_split_cons_iff {p q : α → Prop} {a : α} {items : List α} :
    (∃ before b after, a :: items = before ++ b :: after ∧ (∀ c ∈ before, p c) ∧ q b) ↔
      q a ∨ p a ∧ ∃ before b after, items = before ++ b :: after ∧ (∀ c ∈ before, p c) ∧ q b := by
  constructor
  · rintro ⟨before, b, after, split, fine, last⟩
    cases before with
    | nil =>
      obtain ⟨rfl, rfl⟩ := List.cons.inj split
      exact Or.inl last
    | cons first before =>
      obtain ⟨rfl, rfl⟩ := List.cons.inj split
      obtain ⟨head, others⟩ := List.forall_mem_cons.1 fine
      exact Or.inr ⟨head, before, b, after, rfl, others, last⟩
  · rintro (last | ⟨head, before, b, after, rfl, fine, last⟩)
    · exact ⟨[], a, items, rfl, by simp, last⟩
    · exact ⟨a :: before, b, after, rfl, List.forall_mem_cons.2 ⟨head, fine⟩, last⟩

/-- A function applied to each member of a list gives the values of the single applications. -/
theorem mapM_eq_ok_iff {f : α → Except ε β} {items : List α} {values : List β} :
    items.mapM f = .ok values ↔ List.Forall₂ (fun a b => f a = .ok b) items values := by
  induction items generalizing values with
  | nil =>
    rw [List.mapM_nil, pure_eq_ok_iff, List.forall₂_nil_left_iff, eq_comm]
  | cons a rest ih =>
    simp only [List.mapM_cons, bind_eq_ok_iff, pure_eq_ok_iff, ih, List.forall₂_cons_left_iff]
    constructor
    · rintro ⟨b, hb, bs, hbs, rfl⟩
      exact ⟨b, bs, hb, hbs, rfl⟩
    · rintro ⟨b, bs, hb, hbs, rfl⟩
      exact ⟨b, hb, bs, hbs, rfl⟩

/-- A function applied to each member of a list gives the error of the first application that has
one. -/
theorem mapM_eq_error_iff {f : α → Except ε β} {items : List α} {e : ε} :
    items.mapM f = .error e ↔
      ∃ before a after, items = before ++ a :: after ∧
        (∀ item ∈ before, ∃ b, f item = .ok b) ∧ f a = .error e := by
  induction items with
  | nil => simp [pure, Except.pure]
  | cons item rest ih =>
    rw [List.mapM_cons, bind_eq_error_iff, exists_split_cons_iff, ← ih, ← exists_and_right]
    refine or_congr_right (exists_congr fun b => and_congr_right fun _ => ?_)
    rw [bind_eq_error_iff]
    exact or_iff_left fun ⟨_, _, impossible⟩ => pure_ne_error _ _ impossible

/-- If a member of a list has a property, one of them is the first that has it. -/
theorem exists_first {p : α → Prop} {items : List α} (h : ∃ a ∈ items, p a) :
    ∃ before a after, items = before ++ a :: after ∧ p a ∧ ∀ b ∈ before, ¬ p b := by
  classical
  obtain ⟨a, ha, holds⟩ := h
  have found : (items.find? p).isSome := List.find?_isSome.2 ⟨a, ha, decide_eq_true holds⟩
  obtain ⟨first, hfirst⟩ := Option.isSome_iff_exists.1 found
  obtain ⟨holds, before, after, split, none⟩ := List.find?_eq_some_iff_append.1 hfirst
  exact ⟨before, first, after, split, of_decide_eq_true holds, fun b hb => by simpa using none b hb⟩

theorem getElem?_of_forall₂ {R : α → β → Prop} {items : List α} {values : List β}
    (h : List.Forall₂ R items values) {i : Nat} {b : β} (hb : values[i]? = some b) :
    ∃ a, items[i]? = some a ∧ R a b := by
  induction h generalizing i with
  | nil => simp at hb
  | @cons a b' items values first _ ih =>
    cases i with
    | zero =>
      obtain rfl : b' = b := by simpa using hb
      exact ⟨a, rfl, first⟩
    | succ i => exact ih hb

/-- Each member of the second of two lists that agree goes with one of the first. -/
theorem exists_of_mem_of_forall₂ {R : α → β → Prop} {items : List α} {values : List β}
    (h : List.Forall₂ R items values) {b : β} (hb : b ∈ values) : ∃ a ∈ items, R a b := by
  obtain ⟨i, place⟩ := List.mem_iff_getElem?.1 hb
  obtain ⟨a, found, agree⟩ := getElem?_of_forall₂ h place
  exact ⟨a, List.mem_of_getElem? found, agree⟩

/-- A list that agrees with another exists if there is a value for each member. -/
theorem exists_forall₂ {R : α → β → Prop} {items : List α} (h : ∀ a ∈ items, ∃ b, R a b) :
    ∃ values, List.Forall₂ R items values := by
  induction items with
  | nil => exact ⟨[], .nil⟩
  | cons a rest ih =>
    obtain ⟨⟨b, first⟩, others⟩ := List.forall_mem_cons.1 h
    obtain ⟨values, hvalues⟩ := ih others
    exact ⟨b :: values, .cons first hvalues⟩

/-- Members of lists that agree are told apart by being members. -/
theorem forall₂_mem {R : α → β → Prop} {items : List α} {values : List β}
    (h : List.Forall₂ R items values) :
    List.Forall₂ (fun a b => a ∈ items ∧ b ∈ values ∧ R a b) items values := by
  have right : List.Forall₂ (fun b a => b ∈ values ∧ R a b) values items :=
    (List.forall₂_and_left _ _).2 ⟨fun _ hb => hb, h.flip⟩
  exact (List.forall₂_and_left _ _).2 ⟨fun _ ha => ha, right.flip⟩

/-- The steps of a computation over a list give values if and only if their outcomes do. -/
theorem map_eq_map_ok_iff {f : α → Except ε β} {items : List α} {values : List β} :
    items.map f = values.map .ok ↔ List.Forall₂ (fun a b => f a = .ok b) items values := by
  rw [← List.forall₂_eq_eq_eq, List.forall₂_map_left_iff, List.forall₂_map_right_iff]

end BitmapFont
