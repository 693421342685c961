/-!
# Index sets

The indices of the glyphs that a compilation has defined, in the order of their definition.
-/

namespace BitmapFont

/-- Indices in the order in which they were added. No index occurs twice. -/
structure IndexSet where
  order : List UInt8
  nodup : order.Nodup

namespace IndexSet

/-- No indices. -/
def empty : IndexSet := ⟨[], List.nodup_nil⟩

/-- Whether an index was added. -/
def contains (s : IndexSet) (index : UInt8) : Bool :=
  s.order.contains index

/-- The set with an index at the end, unless it was added already. -/
def insert (s : IndexSet) (index : UInt8) : IndexSet :=
  if h : index ∈ s.order then s
  else ⟨s.order ++ [index], by
    rw [List.nodup_append]
    refine ⟨s.nodup, by simp, ?_⟩
    rintro a ha b hb rfl
    exact h (List.mem_singleton.1 hb ▸ ha)⟩

theorem order_insert {s : IndexSet} {index : UInt8} (h : s.contains index = false) :
    (s.insert index).order = s.order ++ [index] := by
  simp_all [insert, contains]

theorem insert_eq_self {s : IndexSet} {index : UInt8} (h : s.contains index = true) :
    s.insert index = s := by
  simp_all [insert, contains]

end IndexSet

end BitmapFont
