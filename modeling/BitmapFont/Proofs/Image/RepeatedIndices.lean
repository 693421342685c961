import BitmapFont.Proofs.Image.Reading
import Mathlib.Data.List.Induction
import Mathlib.Data.List.Nodup

/-!
# Repeated indices

A writer does not compare the glyphs it writes, but a reader refuses a file in which an index comes
again. So the layout of a font whose shape is right is accepted if and only if its indices are
distinct, and otherwise the first index that comes again is the error.
-/

namespace BitmapFont

/-- If the values of a function on a list are not distinct, one of them is the first that comes
again. -/
theorem exists_first_repeated {α β : Type} {f : α → β} {items : List α}
    (h : ¬ (items.map f).Nodup) :
    ∃ before a after, items = before ++ a :: after ∧ (before.map f).Nodup ∧ f a ∈ before.map f := by
  induction items using List.reverseRecOn with
  | nil => exact absurd List.nodup_nil h
  | append_singleton items a ih =>
    by_cases distinct : (items.map f).Nodup
    · refine ⟨items, a, [], rfl, distinct, ?_⟩
      by_contra fresh
      rw [List.map_append, List.map_singleton] at h
      exact h (List.nodup_append_comm.1 (List.nodup_cons.2 ⟨fresh, distinct⟩))
    · obtain ⟨before, b, after, rfl, first, again⟩ := ih distinct
      exact ⟨before, b, after ++ [a], by simp, first, again⟩

namespace Image

theorem require_eq_error {condition : Prop} [Decidable condition] (failed : ¬ condition)
    (e : ReadError) : require condition e = .error e := by
  rw [require, if_neg failed]

/-- Glyphs are read up to the first whose index was seen before or is that of one of them. -/
theorem readGlyphs_of_repeated {width : RowWidth} {height count : Nat} {seen rest : List UInt8}
    {before : List Glyph} {g : Glyph}
    (shapes : ∀ b ∈ before, b.rows.length = height ∧ ∀ row ∈ b.rows, row.toNat ≤ width.maxValue)
    (distinct : (before.map (·.index)).Nodup) (fresh : ∀ b ∈ before, b.index ∉ seen)
    (repeated : g.index ∈ before.map (·.index) ∨ g.index ∈ seen) (counted : before.length < count) :
    readGlyphs width height count seen (before.flatMap (glyphBytes width) ++ g.index :: rest) =
      .error (.duplicateIndex g.index) := by
  -- What was read so far is among the indices seen, so the induction is over all of these.
  induction before generalizing seen count with
  | nil =>
    obtain ⟨count, rfl⟩ := Nat.exists_eq_add_one_of_ne_zero (Nat.ne_zero_of_lt counted)
    have again : g.index ∈ seen := repeated.resolve_left List.not_mem_nil
    exact bind_eq_error_iff.2 (Or.inl (require_eq_error (not_not.2 again) _))
  | cons b before ih =>
    obtain ⟨count, rfl⟩ := Nat.exists_eq_add_one_of_ne_zero (Nat.ne_zero_of_lt counted)
    obtain ⟨shape, shapes⟩ := List.forall_mem_cons.1 shapes
    obtain ⟨new, distinct⟩ := List.nodup_cons.1 distinct
    obtain ⟨unseen, fresh⟩ := List.forall_mem_cons.1 fresh
    have further : before.length < count := Nat.lt_of_succ_lt_succ counted
    have rows : readRows width height (b.rows.flatMap (rowBytes width) ++
        (before.flatMap (glyphBytes width) ++ g.index :: rest)) =
          .ok (b.rows, before.flatMap (glyphBytes width) ++ g.index :: rest) :=
      readRows_eq_ok_iff.2 ⟨shape.1, shape.2, rfl⟩
    have fresh' : ∀ other ∈ before, other.index ∉ b.index :: seen := by
      intro other hother old
      obtain same | old := List.mem_cons.1 old
      · exact new (List.mem_map.2 ⟨other, hother, same⟩)
      · exact fresh other hother old
    have repeated' : g.index ∈ before.map (·.index) ∨ g.index ∈ b.index :: seen := by
      rw [List.map_cons, List.mem_cons] at repeated
      rw [List.mem_cons]
      tauto
    rw [List.flatMap_cons, glyphBytes, List.cons_append, List.cons_append, List.append_assoc]
    refine bind_eq_error_iff.2 (Or.inr ⟨(), require_eq_ok_iff.2 unseen, ?_⟩)
    refine bind_eq_error_iff.2 (Or.inr ⟨_, rows, ?_⟩)
    exact bind_eq_error_iff.2 (Or.inl (ih shapes distinct fresh' repeated' further))

/-- The layout of a font is refused at the first index that comes again. -/
theorem read_fontBytes_of_repeated {f : Font} (shaped : f.WellShaped) {before after : List Glyph}
    {g : Glyph} (split : f.glyphs = before ++ g :: after)
    (distinct : (before.map (·.index)).Nodup) (repeated : g.index ∈ before.map (·.index)) :
    read (fontBytes f) = .error (.duplicateIndex g.index) := by
  have header : readHeader (fontBytes f) =
      .ok (f.header, f.glyphs.flatMap (glyphBytes f.header.width)) :=
    readHeader_eq_ok_iff.2 ⟨isSome_ofTag?.2 shaped.charset, shaped.name, rfl⟩
  have length := length_fontBytes shaped.name shaped.height
  rw [← shaped.count] at length
  have shapes : ∀ b ∈ before, b.rows.length = f.header.height.toNat ∧
      ∀ row ∈ b.rows, row.toNat ≤ f.header.width.maxValue := by
    intro b hb
    have among : b ∈ f.glyphs := by
      rw [split]
      exact List.mem_append_left _ hb
    exact ⟨shaped.height b among, shaped.width b among⟩
  have counted : before.length < f.header.glyphCount.toNat := by
    rw [shaped.count, split, List.length_append, List.length_cons]
    omega
  refine bind_eq_error_iff.2 (Or.inr ⟨_, header, ?_⟩)
  refine bind_eq_error_iff.2 (Or.inr ⟨(), require_eq_ok_iff.2 length, ?_⟩)
  refine bind_eq_error_iff.2 (Or.inl ?_)
  rw [split, List.flatMap_append, List.flatMap_cons]
  exact readGlyphs_of_repeated shapes distinct (fun _ _ => List.not_mem_nil) (Or.inl repeated)
    counted

end Image

end BitmapFont
