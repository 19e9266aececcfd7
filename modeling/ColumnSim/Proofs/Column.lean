import ColumnSim.Store.Table
import Mathlib.Tactic.Common

/-! A column is a sequence of cells: pushing and setting rows of the shared buffer never mixes them. -/

namespace ColumnSim

variable {R : Type}

section Replace

variable {A : Type} {xs ys : Array A} {start stop : Nat}

lemma extract_replace_self (hy : start + ys.size = stop) (hx : stop ≤ xs.size) :
    (xs.extract 0 start ++ ys ++ xs.extract stop xs.size).extract start stop = ys := by
  have hf : (xs.extract 0 start).size = start := Array.size_extract_of_le (by omega)
  have hfront : (xs.extract 0 start).extract start stop = #[] := Array.extract_eq_empty_of_le (by omega)
  have hself : ys.extract (start - start) (stop - start) = ys := by simp [← hy]
  have hback : (xs.extract stop xs.size).extract (start - stop) (stop - stop) = #[] := by simp
  simp only [Array.extract_append, Array.size_append, hf, hy, hfront, hself, hback, Array.append_empty,
    Array.empty_append]

lemma extract_replace_disjoint {i j : Nat} (hy : start + ys.size = stop) (hx : stop ≤ xs.size)
    (hj : j ≤ xs.size) (h : j ≤ start ∨ stop ≤ i) :
    (xs.extract 0 start ++ ys ++ xs.extract stop xs.size).extract i j = xs.extract i j := by
  have hf : (xs.extract 0 start).size = start := Array.size_extract_of_le (by omega)
  have hys : ys.extract (i - start) (j - start) = #[] := Array.extract_eq_empty_of_le (by omega)
  rcases h with h | h
  · have hback : (xs.extract stop xs.size).extract (i - stop) (j - stop) = #[] :=
      Array.extract_eq_empty_of_le (by omega)
    simp only [Array.extract_append, Array.size_append, hf, hy, hys, hback, Array.append_empty,
      Array.extract_extract]
    congr 1 <;> omega
  · have hfront : (xs.extract 0 start).extract i j = #[] := Array.extract_eq_empty_of_le (by omega)
    simp only [Array.extract_append, Array.size_append, hf, hy, hys, hfront, Array.append_empty,
      Array.empty_append, Array.extract_extract]
    by_cases hij : i < j
    · congr 1 <;> omega
    · rw [Array.extract_empty_of_stop_le_start (by omega), Array.extract_empty_of_stop_le_start (by omega)]

end Replace

namespace Buffer

def Fits (b : Buffer R) (l : Layout) : Prop := b.kind = l.kind ∧ b.size = l.width

lemma ofValue_fits {l : Layout} (v : l.Value R) : (ofValue v).Fits l := ⟨rfl, v.size_toArray⟩

lemma Fits.eq_ofValue {b : Buffer R} {l : Layout} (h : b.Fits l) : ∃ v : l.Value R, b = ofValue v := by
  obtain ⟨k, xs⟩ := b
  obtain ⟨j, shape⟩ := l
  obtain ⟨hk, hs⟩ := h
  cases hk
  exact ⟨⟨xs, hs⟩, rfl⟩

lemma append_mk {k : ElemKind} (xs ys : Array (k.Elem R)) :
    (⟨k, xs⟩ : Buffer R).append ⟨k, ys⟩ = ⟨k, xs ++ ys⟩ := by
  rw [append]
  rw [view_self]

lemma overwrite_mk {k : ElemKind} {xs ys : Array (k.Elem R)} {start stop : Nat}
    (hy : start + ys.size = stop) (hx : stop ≤ xs.size) :
    (⟨k, xs⟩ : Buffer R).overwrite ⟨k, ys⟩ start stop =
      ⟨k, xs.extract 0 start ++ ys ++ xs.extract stop xs.size⟩ := by
  rw [overwrite]
  rw [view_self]
  exact if_pos ⟨hy, hx⟩

lemma kind_append (b c : Buffer R) : (b.append c).kind = b.kind := by
  rw [append]
  split <;> rfl

lemma size_append {b c : Buffer R} (h : c.kind = b.kind) : (b.append c).size = b.size + c.size := by
  obtain ⟨k, xs⟩ := b
  obtain ⟨j, ys⟩ := c
  cases h
  rw [append_mk]
  exact Array.size_append

lemma slice?_append_left {b c : Buffer R} {start stop : Nat} (hk : c.kind = b.kind) (h : stop ≤ b.size) :
    (b.append c).slice? start stop = b.slice? start stop := by
  obtain ⟨k, xs⟩ := b
  obtain ⟨j, ys⟩ := c
  cases hk
  have hs : stop ≤ xs.size := h
  have he : ys.extract (start - xs.size) (stop - xs.size) = #[] := Array.extract_eq_empty_of_le (by omega)
  rw [append_mk]
  simp only [slice?, size, Array.size_append, Array.extract_append, he, Array.append_empty, hs,
    Nat.le_add_right_of_le hs]

lemma slice?_append_right {b c : Buffer R} {start stop : Nat} (h : c.kind = b.kind) :
    (b.append c).slice? (b.size + start) (b.size + stop) = c.slice? start stop := by
  obtain ⟨k, xs⟩ := b
  obtain ⟨j, ys⟩ := c
  cases h
  have he : xs.extract (xs.size + start) (xs.size + stop) = #[] := Array.extract_eq_empty_of_le (by omega)
  rw [append_mk]
  simp only [slice?, size, Array.size_append, Array.extract_append, he, Nat.add_le_add_iff_left,
    Nat.add_sub_cancel_left, Array.empty_append]
  rfl

lemma extend_all {b c : Buffer R} (h : c.kind = b.kind) : b.extend c 0 c.size = .appended (b.append c) := by
  obtain ⟨k, xs⟩ := b
  obtain ⟨j, ys⟩ := c
  cases h
  rw [append_mk, extend]
  simp [view, size]

lemma slice?_of_lt {b : Buffer R} {start stop : Nat} (h : b.size < stop) : b.slice? start stop = none :=
  if_neg fun hb => absurd hb.2 (Nat.not_le_of_lt h)

lemma kind_overwrite (b c : Buffer R) (start stop : Nat) : (b.overwrite c start stop).kind = b.kind := by
  rw [overwrite]
  split
  · rfl
  · split <;> rfl

lemma size_overwrite (b c : Buffer R) (start stop : Nat) : (b.overwrite c start stop).size = b.size := by
  rw [overwrite]
  split
  · rfl
  · split
    · rename_i xs _ h
      have hb : stop ≤ b.elems.size := h.2
      simp only [size, Array.size_append, Array.size_extract]
      omega
    · rfl

lemma slice?_overwrite_self {b c : Buffer R} {start stop : Nat} (hk : c.kind = b.kind)
    (hc : start + c.size = stop) (hb : stop ≤ b.size) : (b.overwrite c start stop).slice? start stop = some c := by
  have hsize := size_overwrite b c start stop
  obtain ⟨k, xs⟩ := b
  obtain ⟨j, ys⟩ := c
  cases hk
  have hr : start ≤ stop ∧ stop ≤ xs.size := ⟨hc ▸ Nat.le_add_right _ _, hb⟩
  have hx := extract_replace_self hc hb
  rw [overwrite_mk hc hb] at hsize ⊢
  rw [slice?, hsize]
  exact (if_pos hr).trans (congrArg (fun zs => some (⟨k, zs⟩ : Buffer R)) hx)

lemma slice?_overwrite_disjoint {b c : Buffer R} {start stop i j : Nat} (h : j ≤ start ∨ stop ≤ i) :
    (b.overwrite c start stop).slice? i j = b.slice? i j := by
  by_cases hj : j ≤ b.size
  · have hsize := size_overwrite b c start stop
    unfold overwrite at hsize ⊢
    split
    · rfl
    · split
      · rename_i xs hv hx
        simp only [hv, hx, and_self, if_true] at hsize
        have he := extract_replace_disjoint hx.1 hx.2 hj h
        simp only [slice?, hsize]
        exact congrArg (fun zs => if i ≤ j ∧ j ≤ b.size then some (⟨b.kind, zs⟩ : Buffer R) else none) he
      · rfl
  · have hlt : b.size < j := Nat.lt_of_not_le hj
    rw [slice?_of_lt hlt, slice?_of_lt ((size_overwrite b c start stop).symm ▸ hlt)]

end Buffer

namespace Column

variable {c : Column R} {rows row other : Nat} {cell : Buffer R}

structure Fits (c : Column R) (rows : Nat) : Prop where
  kind : c.data.kind = c.schema.layout.kind
  size : c.data.size = rows * c.width

lemma empty_fits (s : Schema) : (empty s : Column R).Fits 0 := ⟨rfl, by simp [empty, Buffer.empty, Buffer.size]⟩

lemma Fits.append {d : Column R} {others : Nat} (hc : c.Fits rows) (hd : d.Fits others)
    (hl : d.schema.layout = c.schema.layout) : (c.push d.data).Fits (rows + others) where
  kind := (Buffer.kind_append _ _).trans hc.kind
  size := by
    have hs := Buffer.size_append (hd.kind.trans ((congrArg Layout.kind hl).trans hc.kind.symm))
    have hw : d.width = c.width := congrArg Layout.width hl
    rw [hc.size, hd.size, hw, ← Nat.add_mul] at hs
    exact hs

lemma Fits.push (hc : c.Fits rows) (h : cell.Fits c.schema.layout) : (c.push cell).Fits (rows + 1) :=
  hc.append (d := ⟨c.schema, cell⟩) ⟨h.1, h.2.trans (Nat.one_mul _).symm⟩ rfl

lemma Fits.set (hc : c.Fits rows) (row : Nat) (cell : Buffer R) : (c.set row cell).Fits rows :=
  ⟨(Buffer.kind_overwrite _ _ _ _).trans hc.kind, (Buffer.size_overwrite _ _ _ _).trans hc.size⟩

lemma Fits.cell? (hc : c.Fits rows) (hr : row < rows) :
    ∃ cell, c.cell? row = some cell ∧ cell.Fits c.schema.layout := by
  have hle : (row + 1) * c.width ≤ c.data.size := hc.size ▸ Nat.mul_le_mul_right _ hr
  have hstart : row * c.width ≤ (row + 1) * c.width := Nat.mul_le_mul_right _ (Nat.le_succ _)
  refine ⟨_, if_pos ⟨hstart, hle⟩, hc.kind, ?_⟩
  have hsub : (row + 1) * c.width - row * c.width = c.width := by rw [Nat.succ_mul]; omega
  simp only [Buffer.size, Array.size_extract] at hle ⊢
  rw [Nat.min_eq_left hle, hsub]
  rfl

lemma cell?_append_left {d : Column R} (hc : c.Fits rows) (hk : d.data.kind = c.data.kind) (hr : row < rows) :
    (c.push d.data).cell? row = c.cell? row :=
  Buffer.slice?_append_left hk (hc.size ▸ Nat.mul_le_mul_right _ (Nat.succ_le_of_lt hr))

lemma cell?_append_right {d : Column R} (hc : c.Fits rows) (hk : d.data.kind = c.data.kind) (hw : d.width = c.width) :
    (c.push d.data).cell? (rows + row) = d.cell? row := by
  have hs : (c.data.append d.data).slice? (c.data.size + row * d.width) (c.data.size + (row + 1) * d.width) =
      d.data.slice? (row * d.width) ((row + 1) * d.width) := Buffer.slice?_append_right hk
  rw [hc.size, hw, ← Nat.add_mul, ← Nat.add_mul, ← Nat.add_assoc] at hs
  rw [cell?, cell?, hw]
  exact hs

lemma cell?_push (hc : c.Fits rows) (h : cell.Fits c.schema.layout) (hr : row ≤ rows) :
    (c.push cell).cell? row = if row = rows then some cell else c.cell? row := by
  have hk : cell.kind = c.data.kind := h.1.trans hc.kind.symm
  split
  · rename_i heq
    subst heq
    have hcell : (c.push cell).cell? (row + 0) = (⟨c.schema, cell⟩ : Column R).cell? 0 :=
      cell?_append_right (d := ⟨c.schema, cell⟩) hc hk rfl
    have hone : (⟨c.schema, cell⟩ : Column R).cell? 0 = some cell := by
      simp [cell?, Buffer.slice?, width, ← h.2, Buffer.size]
    exact hcell.trans hone
  · exact cell?_append_left (d := ⟨c.schema, cell⟩) hc hk (Nat.lt_of_le_of_ne hr ‹_›)

lemma cell?_set (hc : c.Fits rows) (h : cell.Fits c.schema.layout) (hr : row < rows) :
    (c.set row cell).cell? other = if other = row then some cell else c.cell? other := by
  split
  · rename_i heq
    subst heq
    refine Buffer.slice?_overwrite_self (h.1.trans hc.kind.symm) ?_ ?_
    · rw [h.2, Nat.succ_mul]
      rfl
    · exact hc.size ▸ Nat.mul_le_mul_right _ hr
  · refine Buffer.slice?_overwrite_disjoint ?_
    rcases Nat.lt_or_gt_of_ne ‹other ≠ row› with hlt | hlt
    · exact .inl (Nat.mul_le_mul_right _ hlt)
    · exact .inr (Nat.mul_le_mul_right _ hlt)

end Column

end ColumnSim
