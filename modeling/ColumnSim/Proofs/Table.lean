import ColumnSim.Proofs.Column
import Mathlib.Data.List.Induction
import Mathlib.Data.List.Nodup

/-! Tables keep their columns as long as their rows, and both of their indices exact. -/

namespace ColumnSim

variable {R : Type}

lemma find?_eq_some_iff_mem {A B : Type} [DecidableEq B] {f : A → B} {xs : List A} (h : (xs.map f).Nodup) {b : B}
    {x : A} : (xs.find? fun y => f y = b) = some x ↔ x ∈ xs ∧ f x = b := by
  induction xs with
  | nil => simp
  | cons y ys ih =>
    obtain ⟨hy, hys⟩ := List.nodup_cons.1 h
    have hne : ∀ z ∈ ys, f z ≠ f y := fun z hz he => hy (he ▸ List.mem_map_of_mem hz)
    rw [List.find?_cons]
    by_cases hb : f y = b <;> grind

namespace ComponentValue

def cellOf? (values : List (ComponentValue R)) (c : ComponentId) : Option (Buffer R) :=
  (values.find? fun v => v.schema.id = c).map buffer

lemma buffer_fits (v : ComponentValue R) : v.buffer.Fits v.schema.layout := Buffer.ofValue_fits v.value

end ComponentValue

namespace Table

variable {t : Table R} {c : ComponentId}

lemma indexOf_eq_some_iff {schemas : List Schema} (h : (schemas.map Schema.id).Nodup) {i : Nat} :
    (indexOf schemas)[c]? = some i ↔ (schemas.map Schema.id)[i]? = some c := by
  induction schemas using List.reverseRecOn generalizing i with
  | nil => simp [indexOf]
  | append_singleton schemas s ih =>
    rw [List.map_append, List.nodup_append] at h
    have hs : ∀ j, (schemas.map Schema.id)[j]? ≠ some s.id := fun j hj =>
      h.2.2 _ (List.mem_of_getElem? hj) _ (List.mem_singleton_self _) rfl
    have hi : indexOf (schemas ++ [s]) = (indexOf schemas).insert s.id schemas.length := by
      simp [indexOf, List.zipIdx_append]
    simp only [hi, Std.TreeMap.getElem?_insert, Std.LawfulEqCmp.compare_eq_iff_eq, List.map_append,
      List.getElem?_append, List.length_map]
    by_cases hc : s.id = c
    · subst hc
      have hi := hs i
      grind
    · rw [if_neg hc, ih h.1]
      grind

def cell? (t : Table R) (row : Nat) (c : ComponentId) : Option (Buffer R) :=
  (t.column? c).bind (·.cell? row)

structure Valid (t : Table R) : Prop where
  fits : ∀ col ∈ t.columns, col.Fits t.size
  stamps : t.stamps.size = t.size
  index : ∀ c (i : Nat), t.index[c]? = some i ↔ (t.schemas.map Schema.id)[i]? = some c
  rows : ∀ e (row : Nat), t.rows[e]? = some row ↔
    t.entities[row]? = some e ∧ ∀ other, t.entities[other]? = some e → other ≤ row

namespace Valid

lemma nodup (ht : t.Valid) : (t.schemas.map Schema.id).Nodup := by
  refine List.nodup_iff_getElem?_ne_getElem?.2 fun i j hij hj he => ?_
  have hc := List.getElem?_eq_getElem hj
  have hi := (ht.index _ i).2 (he.trans hc)
  rw [(ht.index _ j).2 hc] at hi
  cases hi
  exact Nat.lt_irrefl _ hij

lemma column?_eq_some_iff (ht : t.Valid) {col : Column R} :
    t.column? c = some col ↔ col ∈ t.columns ∧ col.schema.id = c := by
  have hid : ∀ i : Nat, (t.schemas.map Schema.id)[i]? = (t.columns[i]?).map fun col : Column R => col.schema.id := by
    intro i
    simp [schemas, Function.comp_def]
  constructor
  · intro h
    obtain ⟨i, hi, hcol⟩ := Option.bind_eq_some_iff.1 h
    have hc := (ht.index c i).1 hi
    rw [hid, hcol] at hc
    exact ⟨List.mem_of_getElem? hcol, Option.some.inj hc⟩
  · rintro ⟨hcol, rfl⟩
    obtain ⟨i, hi⟩ := List.mem_iff_getElem?.1 hcol
    have hc := (ht.index col.schema.id i).2 (by rw [hid, hi]; rfl)
    exact Option.bind_eq_some_iff.2 ⟨i, hc, hi⟩

lemma hasColumn_iff (ht : t.Valid) : t.hasColumn c = true ↔ c ∈ t.schemas.map Schema.id := by
  rw [hasColumn, Std.TreeMap.contains_eq_isSome_getElem?, Option.isSome_iff_exists, List.mem_iff_getElem?]
  exact exists_congr fun i => ht.index c i

lemma hasColumn_iff_column? (ht : t.Valid) : t.hasColumn c = true ↔ ∃ col, t.column? c = some col := by
  simp only [ht.hasColumn_iff, ht.column?_eq_some_iff, schemas, List.mem_map]
  grind

lemma cell? (ht : t.Valid) {col : Column R} (hcol : t.column? c = some col) {row : Nat} (hr : row < t.size) :
    ∃ cell, t.cell? row c = some cell ∧ cell.Fits col.schema.layout := by
  obtain ⟨cell, hcell, hf⟩ := (ht.fits col (ht.column?_eq_some_iff.1 hcol).1).cell? hr
  exact ⟨cell, by rw [Table.cell?, hcol, Option.bind_some, hcell], hf⟩

end Valid

lemma schemas_empty (name : ArchetypeName) (schemas : List Schema) :
    (empty name schemas : Table R).schemas = schemas := by
  simp [Table.schemas, empty, Column.empty, Function.comp_def]

lemma empty_valid (name : ArchetypeName) {schemas : List Schema} (h : (schemas.map Schema.id).Nodup) :
    (empty name schemas : Table R).Valid where
  fits col hcol := by
    obtain ⟨s, _, rfl⟩ := List.mem_map.1 hcol
    exact Column.empty_fits s
  stamps := rfl
  index c i := by
    rw [schemas_empty]
    exact indexOf_eq_some_iff h
  rows e row := by simp [empty]

section Push

variable {values : List (ComponentValue R)} {e : EntityId} {stamp : Nat}

lemma push_columns (h : values.map (·.schema) = t.schemas) {col : Column R}
    (hcol : col ∈ (t.push e stamp values).columns) :
    ∃ old ∈ t.columns, ∃ v ∈ values, v.schema = old.schema ∧ col = old.push v.buffer := by
  obtain ⟨i, hi⟩ := List.mem_iff_getElem?.1 hcol
  obtain ⟨old, v, ho, hv, rfl⟩ := List.getElem?_zipWith_eq_some.1 hi
  have hs : (values.map (·.schema))[i]? = t.schemas[i]? := by rw [h]
  rw [List.getElem?_map, hv, schemas, List.getElem?_map, ho] at hs
  exact ⟨old, List.mem_of_getElem? ho, v, List.mem_of_getElem? hv, Option.some.inj hs, rfl⟩

lemma push_schemas (h : values.map (·.schema) = t.schemas) : (t.push e stamp values).schemas = t.schemas := by
  apply List.ext_getElem?
  intro i
  have hs : (values.map (·.schema))[i]? = t.schemas[i]? := by rw [h]
  simp only [schemas, push, List.getElem?_map, List.getElem?_zipWith] at hs ⊢
  cases ho : t.columns[i]? with
  | none => rfl
  | some old =>
    cases hv : values[i]? with
    | none => simp [ho, hv] at hs
    | some v => rfl

lemma Valid.push (ht : t.Valid) (h : values.map (·.schema) = t.schemas) (e : EntityId) (stamp : Nat) :
    (t.push e stamp values).Valid where
  fits col hcol := by
    obtain ⟨old, hold, v, _, hs, rfl⟩ := push_columns h hcol
    have hsize : (t.push e stamp values).size = t.size + 1 := Array.size_push _
    rw [hsize]
    exact (ht.fits old hold).push (hs ▸ v.buffer_fits)
  stamps := by
    simp only [Table.push, Table.size, Array.size_push]
    exact congrArg (· + 1) ht.stamps
  index c i := by
    rw [push_schemas h]
    exact ht.index c i
  rows f row := by
    have hr := ht.rows f row
    simp only [Table.push, Std.TreeMap.getElem?_insert, Std.LawfulEqCmp.compare_eq_iff_eq, Array.getElem?_push]
    by_cases hf : e = f <;> grind [Table.size]

lemma cellOf?_eq_some_iff (h : (values.map (·.schema.id)).Nodup) {cell : Buffer R} :
    ComponentValue.cellOf? values c = some cell ↔ ∃ v ∈ values, v.schema.id = c ∧ v.buffer = cell := by
  simp only [ComponentValue.cellOf?, Option.map_eq_some_iff, find?_eq_some_iff_mem h, and_assoc]

lemma values_nodup (ht : t.Valid) (h : values.map (·.schema) = t.schemas) :
    (values.map (·.schema.id)).Nodup := by
  have hn := ht.nodup
  rwa [← h, List.map_map] at hn

lemma column?_push (e : EntityId) (stamp : Nat) (h : values.map (·.schema) = t.schemas) {col : Column R}
    (hcol : t.column? c = some col) :
    ∃ v ∈ values, v.schema = col.schema ∧ (t.push e stamp values).column? c = some (col.push v.buffer) := by
  obtain ⟨i, hi, hc⟩ := Option.bind_eq_some_iff.1 hcol
  have hs : (values.map (·.schema))[i]? = t.schemas[i]? := by rw [h]
  rw [schemas, List.getElem?_map, List.getElem?_map, hc, Option.map_some, Option.map_eq_some_iff] at hs
  obtain ⟨v, hv, hvs⟩ := hs
  refine ⟨v, List.mem_of_getElem? hv, hvs, Option.bind_eq_some_iff.2 ⟨i, hi, ?_⟩⟩
  exact List.getElem?_zipWith_eq_some.2 ⟨col, v, hc, hv, rfl⟩

lemma column?_push_none (ht : t.Valid) (h : values.map (·.schema) = t.schemas) (hcol : t.column? c = none) :
    (t.push e stamp values).column? c = none := by
  rw [Option.eq_none_iff_forall_ne_some] at hcol ⊢
  intro col hp
  obtain ⟨hmem, hid⟩ := (ht.push h e stamp).column?_eq_some_iff.1 hp
  obtain ⟨old, hold, v, _, _, rfl⟩ := push_columns h hmem
  exact hcol old (ht.column?_eq_some_iff.2 ⟨hold, hid⟩)

lemma cell?_push (ht : t.Valid) (h : values.map (·.schema) = t.schemas) {row : Nat} (hr : row ≤ t.size) :
    (t.push e stamp values).cell? row c =
      if row = t.size then ComponentValue.cellOf? values c else t.cell? row c := by
  have hn := values_nodup ht h
  simp only [cell?]
  cases hcol : t.column? c with
  | none =>
    have hnone : ComponentValue.cellOf? values c = none := by
      rw [Option.eq_none_iff_forall_ne_some] at hcol ⊢
      intro cell hcell
      obtain ⟨v, hv, hid, _⟩ := (cellOf?_eq_some_iff hn).1 hcell
      have hs : v.schema ∈ t.schemas := h ▸ List.mem_map_of_mem hv
      obtain ⟨col, hm, hcs⟩ := List.mem_map.1 hs
      exact hcol col (ht.column?_eq_some_iff.2 ⟨hm, hcs ▸ hid⟩)
    simp [column?_push_none ht h hcol, hnone]
  | some col =>
    obtain ⟨hm, hid⟩ := ht.column?_eq_some_iff.1 hcol
    obtain ⟨v, hv, hvs, hp⟩ := column?_push e stamp h hcol
    have hcell := (cellOf?_eq_some_iff hn).2 ⟨v, hv, hvs ▸ hid, rfl⟩
    rw [hp, hcell]
    exact Column.cell?_push (ht.fits col hm) (hvs ▸ v.buffer_fits) hr

end Push

section Set

variable {col : Column R} {cell : Buffer R} {row : Nat}

lemma set_schemas (t : Table R) (c : ComponentId) (row : Nat) (cell : Buffer R) :
    (t.set c row cell).schemas = t.schemas := by
  apply List.ext_getElem?
  intro i
  simp only [schemas, set, List.getElem?_map]
  split
  · rw [List.getElem?_modify]
    cases t.columns[i]? with
    | none => rfl
    | some col =>
      simp only [Option.map_eq_map, Option.map_some]
      split <;> rfl
  · rfl

lemma Valid.set (ht : t.Valid) (c : ComponentId) (row : Nat) (cell : Buffer R) : (t.set c row cell).Valid where
  fits col hcol := by
    have hmem : ∃ old ∈ t.columns, col = old ∨ col = old.set row cell := by
      simp only [Table.set] at hcol
      split at hcol
      · obtain ⟨i, hi⟩ := List.mem_iff_getElem?.1 hcol
        simp only [List.getElem?_modify, Option.map_eq_map, Option.map_eq_some_iff] at hi
        obtain ⟨old, ho, he⟩ := hi
        refine ⟨old, List.mem_of_getElem? ho, ?_⟩
        split at he
        · exact .inr he.symm
        · exact .inl he.symm
      · exact ⟨col, hcol, .inl rfl⟩
    obtain ⟨old, hold, rfl | rfl⟩ := hmem
    · exact ht.fits col hold
    · exact (ht.fits old hold).set row cell
  stamps := ht.stamps
  index d i := by
    rw [set_schemas]
    exact ht.index d i
  rows := ht.rows

lemma column?_set (ht : t.Valid) (d : ComponentId) :
    (t.set c row cell).column? d = (t.column? d).map fun col => if d = c then col.set row cell else col := by
  have hinj : ∀ i, t.index[c]? = some i → t.index[d]? = some i → d = c := fun i hc hd =>
    Option.some.inj (((ht.index d i).1 hd).symm.trans ((ht.index c i).1 hc))
  simp only [column?, set]
  cases hd : t.index[d]? with
  | none => rfl
  | some j =>
    cases hc : t.index[c]? with
    | none =>
      have hne : d ≠ c := fun he => by simp [he, hc] at hd
      simp [hne]
    | some i =>
      by_cases he : d = c
      · subst he
        rw [hc] at hd
        cases hd
        simp
      · have hij : i ≠ j := fun hij => he (hinj i hc (hij ▸ hd))
        simp [he, hij]

lemma cell?_set (ht : t.Valid) (hcol : t.column? c = some col) (h : cell.Fits col.schema.layout)
    (hr : row < t.size) {other : Nat} {d : ComponentId} :
    (t.set c row cell).cell? other d = if other = row ∧ d = c then some cell else t.cell? other d := by
  simp only [cell?, column?_set ht]
  by_cases hd : d = c
  · subst hd
    simp only [hcol, Option.map_some, Option.bind_some, and_true, if_true]
    exact Column.cell?_set (ht.fits col (ht.column?_eq_some_iff.1 hcol).1) h hr
  · simp [hd]

end Set

end Table

end ColumnSim
