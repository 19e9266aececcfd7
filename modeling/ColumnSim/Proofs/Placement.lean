import ColumnSim.Proofs.Table
import ColumnSim.Store.Insert
import ColumnSim.Store.Write

namespace ColumnSim.Store

variable {R : Type} {V : AssetKind → Type} {s : Store R V} {p : Placement} {c : ComponentId}

def entityAt? (s : Store R V) (p : Placement) : Option EntityId :=
  (s.tables[p.table]?).bind fun table => table.entities[p.row]?

def stampAt? (s : Store R V) (p : Placement) : Option Nat :=
  (s.tables[p.table]?).bind fun table => table.stamps[p.row]?

def cellAt? (s : Store R V) (p : Placement) (c : ComponentId) : Option (Buffer R) :=
  (s.tables[p.table]?).bind fun table => table.cell? p.row c

lemma stores_iff : s.stores c p = true ↔ ∃ table, s.tables[p.table]? = some table ∧ table.hasColumn c = true := by
  rw [stores]
  cases s.tables[p.table]? <;> simp

lemma entityAt?_eq_some_iff {e : EntityId} :
    s.entityAt? p = some e ↔ ∃ table, s.tables[p.table]? = some table ∧ table.entities[p.row]? = some e :=
  Option.bind_eq_some_iff

lemma row_lt_size {table : Table R} {e : EntityId} (ht : s.tables[p.table]? = some table)
    (he : s.entityAt? p = some e) : p.row < table.size := by
  rw [entityAt?, ht, Option.bind_some] at he
  exact (Array.getElem?_eq_some_iff.1 he).1

section AddTable

variable {name : ArchetypeName} {schemas : List Schema}

lemma registerAll_getElem? (registry : Std.TreeMap ComponentId Schema) (schemas : List Schema) :
    (registerAll registry schemas)[c]? = (registry[c]?).or (schemas.find? fun s => s.id = c) := by
  induction schemas generalizing registry with
  | nil => simp [registerAll]
  | cons s schemas ih =>
    have hr : registerAll registry (s :: schemas) = registerAll (registry.insertIfNew s.id s) schemas := rfl
    rw [hr, ih, Std.TreeMap.getElem?_insertIfNew, List.find?_cons]
    simp only [Std.LawfulEqCmp.compare_eq_iff_eq]
    by_cases hc : s.id = c
    · subst hc
      by_cases hm : s.id ∈ registry <;> simp [hm]
    · simp [hc]

lemma addHolder_getElem? (holders : Std.TreeMap ComponentId (List Nat)) (t : Nat)
    (h : (schemas.map Schema.id).Nodup) :
    (addHolder holders t schemas)[c]? =
      if c ∈ schemas.map Schema.id then some (holders.getD c [] ++ [t]) else holders[c]? := by
  induction schemas generalizing holders with
  | nil => rfl
  | cons s schemas ih =>
    obtain ⟨hs, hn⟩ := List.nodup_cons.1 h
    have hr : addHolder holders t (s :: schemas) =
      addHolder (holders.insert s.id (holders.getD s.id [] ++ [t])) t schemas := rfl
    rw [hr, ih _ hn]
    by_cases hc : s.id = c
    · subst hc
      rw [if_neg hs, Std.TreeMap.getElem?_insert_self, List.map_cons, if_pos (List.mem_cons_self ..)]
    · have hne : c ≠ s.id := fun he => hc he.symm
      simp [Std.TreeMap.getElem?_insert, Std.TreeMap.getD_insert, hc, hne]

lemma tables_addTable (t : Nat) :
    (s.addTable name schemas).tables[t]? = if t = s.tables.size then some (.empty name schemas) else s.tables[t]? :=
  Array.getElem?_push

lemma exists_table_addTable {t : Nat} {P : Table R → Prop} :
    (∃ table, (s.addTable name schemas).tables[t]? = some table ∧ P table) ↔
      t = s.tables.size ∧ P (.empty name schemas) ∨ ∃ table, s.tables[t]? = some table ∧ P table := by
  rw [tables_addTable]
  by_cases ht : t = s.tables.size
  · subst ht
    simp
  · simp [ht]

lemma entityAt?_addTable : (s.addTable name schemas).entityAt? p = s.entityAt? p := by
  simp only [entityAt?]
  rw [tables_addTable]
  split
  · rename_i hp
    simp [hp, Table.empty]
  · rfl

lemma stampAt?_addTable : (s.addTable name schemas).stampAt? p = s.stampAt? p := by
  simp only [stampAt?]
  rw [tables_addTable]
  split
  · rename_i hp
    simp [hp, Table.empty]
  · rfl

lemma tables_addTable_of_entityAt? {e : EntityId} (he : s.entityAt? p = some e) :
    (s.addTable name schemas).tables[p.table]? = s.tables[p.table]? := by
  obtain ⟨table, ht, _⟩ := entityAt?_eq_some_iff.1 he
  have hlt := (Array.getElem?_eq_some_iff.1 ht).1
  rw [tables_addTable, if_neg (Nat.ne_of_lt hlt)]

lemma stores_addTable {e : EntityId} (he : s.entityAt? p = some e) :
    (s.addTable name schemas).stores c p = s.stores c p := by
  simp only [stores]
  rw [tables_addTable_of_entityAt? he]

lemma cellAt?_addTable {e : EntityId} (he : s.entityAt? p = some e) :
    (s.addTable name schemas).cellAt? p c = s.cellAt? p c := by
  simp only [cellAt?]
  rw [tables_addTable_of_entityAt? he]

lemma holdersOf_addTable (h : (schemas.map Schema.id).Nodup) :
    (s.addTable name schemas).holdersOf c =
      if c ∈ schemas.map Schema.id then s.holdersOf c ++ [s.tables.size] else s.holdersOf c := by
  have hg := addHolder_getElem? (c := c) s.holders s.tables.size h
  simp only [holdersOf, addTable, Std.TreeMap.getD_eq_getD_getElem?, hg]
  split <;> rfl

lemma hasComponent_addTable (h : (schemas.map Schema.id).Nodup) :
    (s.addTable name schemas).hasComponent c = true ↔ c ∈ schemas.map Schema.id ∨ s.hasComponent c = true := by
  have hg := addHolder_getElem? (c := c) s.holders s.tables.size h
  simp only [hasComponent, addTable, Std.TreeMap.contains_eq_isSome_getElem?, hg]
  split <;> simp [*]

lemma schema?_addTable :
    (s.addTable name schemas).schema? c = (s.schema? c).or (schemas.find? fun s => s.id = c) :=
  registerAll_getElem? s.registry schemas

end AddTable

section PushRow

variable {t : Nat} {table : Table R} {e f : EntityId} {values : List (ComponentValue R)}

lemma tables_pushRow (ht : s.tables[t]? = some table) (u : Nat) :
    (s.pushRow t e values).tables[u]? = if u = t then some (table.push e s.nextStamp values) else s.tables[u]? := by
  simp only [pushRow, Array.getElem?_modify]
  by_cases hu : t = u
  · subst hu
    simp [ht]
  · rw [if_neg hu, if_neg fun h => hu h.symm]

lemma exists_table_pushRow (ht : s.tables[t]? = some table) {P : Table R → Prop} {u : Nat}
    (hP : P (table.push e s.nextStamp values) ↔ P table) :
    (∃ other, (s.pushRow t e values).tables[u]? = some other ∧ P other) ↔
      ∃ other, s.tables[u]? = some other ∧ P other := by
  rw [tables_pushRow ht]
  by_cases hu : u = t
  · subst hu
    simp [ht, hP]
  · simp [hu]

lemma placementsOf_pushRow (ht : s.tables[t]? = some table) :
    (s.pushRow t e values).placementsOf f =
      if f = e then s.placementsOf e ++ [⟨t, table.size⟩] else s.placementsOf f := by
  simp only [placementsOf, pushRow, Std.TreeMap.getD_insert, ht, Std.LawfulEqCmp.compare_eq_iff_eq,
    Option.map_some, Option.getD_some]
  by_cases hf : e = f
  · rw [if_pos hf, if_pos hf.symm]
  · rw [if_neg hf, if_neg fun h => hf h.symm]

lemma entityAt?_pushRow (ht : s.tables[t]? = some table) :
    (s.pushRow t e values).entityAt? p = if p = ⟨t, table.size⟩ then some e else s.entityAt? p := by
  obtain ⟨u, row⟩ := p
  simp only [entityAt?, tables_pushRow ht, Placement.mk.injEq]
  by_cases hu : u = t
  · subst hu
    simp [Table.push, Array.getElem?_push, ht, Table.size]
  · simp [hu]

lemma stampAt?_pushRow (ht : s.tables[t]? = some table) (hst : table.stamps.size = table.size) :
    (s.pushRow t e values).stampAt? p = if p = ⟨t, table.size⟩ then some s.nextStamp else s.stampAt? p := by
  obtain ⟨u, row⟩ := p
  simp only [stampAt?, tables_pushRow ht, Placement.mk.injEq]
  by_cases hu : u = t
  · subst hu
    simp [Table.push, Array.getElem?_push, ht, hst]
  · simp [hu]

lemma entityAt?_end {row : Nat} (ht : s.tables[t]? = some table) (hr : table.size ≤ row) :
    s.entityAt? ⟨t, row⟩ = none := by
  rw [entityAt?, ht, Option.bind_some]
  exact Array.getElem?_eq_none hr

lemma stampAt?_end {row : Nat} (ht : s.tables[t]? = some table) (hst : table.stamps.size = table.size)
    (hr : table.size ≤ row) : s.stampAt? ⟨t, row⟩ = none := by
  rw [stampAt?, ht, Option.bind_some]
  exact Array.getElem?_eq_none (hst ▸ hr)

lemma stores_pushRow (ht : s.tables[t]? = some table) : (s.pushRow t e values).stores c p = s.stores c p := by
  simp only [stores]
  rw [tables_pushRow ht]
  by_cases hp : p.table = t
  · rw [if_pos hp, hp, ht]
    rfl
  · rw [if_neg hp]

lemma cellAt?_pushRow_self (ht : s.tables[t]? = some table) (hv : table.Valid)
    (hs : values.map (·.schema) = table.schemas) :
    (s.pushRow t e values).cellAt? ⟨t, table.size⟩ c = ComponentValue.cellOf? values c := by
  simp only [cellAt?, tables_pushRow ht, if_true, Option.bind_some, Table.cell?_push hv hs (Nat.le_refl _)]

lemma cellAt?_pushRow (ht : s.tables[t]? = some table) (hv : table.Valid)
    (hs : values.map (·.schema) = table.schemas) (hp : s.entityAt? p = some f) :
    (s.pushRow t e values).cellAt? p c = s.cellAt? p c := by
  simp only [cellAt?, tables_pushRow ht]
  split
  · rename_i hu
    have hlt := row_lt_size (hu ▸ ht) hp
    rw [hu, ht, Option.bind_some, Option.bind_some, Table.cell?_push hv hs (Nat.le_of_lt hlt),
      if_neg (Nat.ne_of_lt hlt)]
  · rfl

end PushRow

end ColumnSim.Store
