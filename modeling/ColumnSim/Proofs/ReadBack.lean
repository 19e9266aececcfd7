import ColumnSim.Proofs.Determined
import ColumnSim.Proofs.Shape

namespace ColumnSim

variable {R : Type} {V : AssetKind → Type}

lemma filterMap_filter_range {A : Type} (xs : List A) (p : A → Bool) (n : Nat) :
    ((List.range n).filter fun t => (xs[t]?).any p).filterMap (xs[·]?) = (xs.take n).filter p := by
  induction n with
  | zero => rfl
  | succ n ih =>
    rw [List.range_succ, List.filter_append, List.filterMap_append, ih, List.take_add_one, List.filter_append]
    congr 1
    cases h : xs[n]? with
    | none => simp [h]
    | some x => by_cases hp : p x = true <;> simp [h, hp]

lemma flatMap_filter {A B : Type} (xs : List A) (p : A → Bool) (f : A → List B) :
    (xs.filter p).flatMap f = xs.flatMap fun x => if p x then f x else [] := by
  induction xs with
  | nil => rfl
  | cons x xs ih => by_cases hp : p x = true <;> simp [hp, ih]

namespace ColumnArray

variable {a : ColumnArray R} {c : ComponentId} {table : Table R} {cellOf? : EntityId → Option (Buffer R)}

def column (a : ColumnArray R) : Column R := ⟨a.schema, a.elems⟩

structure Reads (a : ColumnArray R) (cellOf? : EntityId → Option (Buffer R)) : Prop where
  fits : a.column.Fits a.size
  cells : ∀ (i : Nat) e, a.entities[i]? = some e → a.column.cell? i = cellOf? e

structure Serves (table : Table R) (c : ComponentId) (l : Layout) (cellOf? : EntityId → Option (Buffer R)) : Prop where
  valid : table.Valid
  column : ∃ col, table.column? c = some col ∧ col.schema.layout = l
  cells : ∀ (row : Nat) e, table.entities[row]? = some e → table.cell? row c = cellOf? e

lemma extend_eq {col : Column R} (hk : col.data.kind = a.elems.kind) (hcol : table.column? c = some col)
    (hsize : col.data.size = table.size * a.schema.layout.width) : a.extend c table =
      ⟨a.schema, a.entities ++ table.entities.toList, a.elems.append col.data⟩ := by
  simp only [extend, hcol]
  rw [← hsize, Buffer.extend_all hk]

lemma Reads.extend (ha : a.Reads cellOf?) (ht : Serves table c a.schema.layout cellOf?) :
    (a.extend c table).Reads cellOf? ∧ (a.extend c table).schema = a.schema := by
  obtain ⟨col, hcol, hl⟩ := ht.column
  have hfits := ht.valid.fits col (ht.valid.column?_eq_some_iff.1 hcol).1
  have hk : col.data.kind = a.column.data.kind := hfits.kind.trans ((congrArg Layout.kind hl).trans ha.fits.kind.symm)
  have hw : col.width = a.column.width := congrArg Layout.width hl
  rw [extend_eq hk hcol (hfits.size.trans (congrArg (table.size * ·) hw))]
  refine ⟨⟨?_, fun i e he => ?_⟩, rfl⟩
  · have hsize : (a.entities ++ table.entities.toList).length = a.size + table.size := by simp [size, Table.size]
    rw [size, hsize]
    exact ha.fits.append hfits hl
  · rw [List.getElem?_append] at he
    split at he
    · rw [← ha.cells i e he]
      exact Column.cell?_append_left ha.fits hk ‹_›
    · obtain ⟨row, rfl⟩ := Nat.exists_eq_add_of_le (Nat.le_of_not_lt ‹_›)
      rw [Nat.add_sub_cancel_left, Array.getElem?_toList] at he
      have hcell := ht.cells row e he
      rw [Table.cell?, hcol, Option.bind_some] at hcell
      rw [← hcell]
      exact Column.cell?_append_right ha.fits hk hw

lemma Reads.foldl_extend {tables : List (Table R)} (ha : a.Reads cellOf?)
    (h : ∀ table ∈ tables, Serves table c a.schema.layout cellOf?) :
    (tables.foldl (·.extend c) a).Reads cellOf? ∧ (tables.foldl (·.extend c) a).schema = a.schema := by
  induction tables generalizing a with
  | nil => exact ⟨ha, rfl⟩
  | cons table tables ih =>
    obtain ⟨hfirst, hrest⟩ := List.forall_mem_cons.1 h
    obtain ⟨hreads, hschema⟩ := ha.extend hfirst
    obtain ⟨hlast, heq⟩ := ih hreads (hschema.symm ▸ hrest)
    exact ⟨hlast, heq.trans hschema⟩

end ColumnArray

namespace Store

variable {s : Store R V} {c : ComponentId} {schema : Schema}

lemma entitiesWith_eq (s : Store R V) (c : ComponentId) :
    s.entitiesWith c = ((s.holdersOf c).filterMap (s.tables[·]?)).flatMap (·.entities.toList) := by
  rw [entitiesWith]
  induction s.holdersOf c with
  | nil => rfl
  | cons t ts ih =>
    rw [List.flatMap_cons, List.filterMap_cons, ih]
    cases s.tables[t]? <;> rfl

namespace Valid

lemma tables_holdersOf (hs : s.Valid) :
    (s.holdersOf c).filterMap (s.tables[·]?) = s.tables.toList.filter (·.hasColumn c) := by
  have hholders : s.holdersOf c =
      (List.range s.tables.size).filter fun t => (s.tables.toList[t]?).any (·.hasColumn c) := by
    apply eq_of_strict (hs.holders_ascending c) (List.pairwise_lt_range.filter _)
    intro t
    rw [hs.holders, List.mem_filter, List.mem_range, Array.getElem?_toList, Option.any_eq_true]
    refine ⟨fun ⟨table, ht, hc⟩ => ⟨(Array.getElem?_eq_some_iff.1 ht).1, table, ht, hc⟩, fun ⟨_, h⟩ => h⟩
  have hall := filterMap_filter_range s.tables.toList (·.hasColumn c) s.tables.toList.length
  rw [List.take_length] at hall
  rw [hholders, ← hall]
  simp

lemma serves (hs : s.Valid) (hc : s.schema? c = some schema) {t : Nat} {table : Table R}
    (ht : s.tables[t]? = some table) (hcol : table.hasColumn c = true) :
    ColumnArray.Serves table c schema.layout (s.cell? · c) where
  valid := hs.tables ht
  column := by
    obtain ⟨col, hcol⟩ := (hs.tables ht).hasColumn_iff_column?.1 hcol
    obtain ⟨hm, rfl⟩ := (hs.tables ht).column?_eq_some_iff.1 hcol
    obtain ⟨registered, hr, hl⟩ := hs.layouts ht (List.mem_map_of_mem hm)
    rw [hc] at hr
    cases hr
    exact ⟨col, hcol, hl.symm⟩
  cells row e he := by
    have hcell := hs.cellAt?_eq_cell? (p := ⟨t, row⟩) (entityAt?_eq_some_iff.2 ⟨table, ht, he⟩)
      (stores_iff.2 ⟨table, ht, hcol⟩)
    rwa [cellAt?, ht, Option.bind_some] at hcell

lemma columnArray_reads (hs : s.Valid) (hc : s.schema? c = some schema) : ∃ a, s.columnArray c = .ok a ∧
    a.schema = schema ∧ a.entities = s.entitiesWith c ∧ a.Reads (s.cell? · c) := by
  have hserves : ∀ table ∈ (s.holdersOf c).filterMap (s.tables[·]?),
      ColumnArray.Serves table c schema.layout (s.cell? · c) := by
    intro table hm
    obtain ⟨t, ht, htable⟩ := List.mem_filterMap.1 hm
    obtain ⟨other, ho, hcol⟩ := (hs.holders c t).1 ht
    rw [htable] at ho
    cases ho
    exact hs.serves hc htable hcol
  have hempty : (⟨schema, [], .empty schema.layout.kind⟩ : ColumnArray R).Reads (s.cell? · c) :=
    ⟨Column.empty_fits schema, fun i e he => by cases he⟩
  obtain ⟨hreads, hschema⟩ := hempty.foldl_extend hserves
  refine ⟨_, by rw [columnArray, hc], hschema, ?_, hreads⟩
  rw [ColumnArray.entities_foldl_extend, List.nil_append, entitiesWith_eq]
  refine List.flatMap_congr fun table hm => ?_
  obtain ⟨col, hcol, _⟩ := (hserves table hm).column
  rw [hcol]
  rfl

end Valid

end Store

end ColumnSim
