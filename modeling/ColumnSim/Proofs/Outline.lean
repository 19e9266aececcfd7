import ColumnSim.Proofs.Placement

/-! The outline of a store: all that it holds except the values of its cells. -/

namespace ColumnSim

variable {R : Type} {V : AssetKind → Type}

namespace Table

def outline (t : Table R) : Table R := { t with columns := t.columns.map fun col => .empty col.schema }

variable {t u : Table R} {c : ComponentId}

lemma schemas_eq_of_outline (h : t.outline = u.outline) : t.schemas = u.schemas := by
  have hs : ∀ t : Table R, t.outline.schemas = t.schemas := fun t => by
    simp [schemas, outline, Column.empty, Function.comp_def]
  rw [← hs t, h, hs u]

lemma outline_eq_iff : t.outline = u.outline ↔
    t.name = u.name ∧ t.schemas = u.schemas ∧ t.index = u.index ∧ t.entities = u.entities ∧
      t.stamps = u.stamps ∧ t.rows = u.rows := by
  constructor
  · intro h
    obtain ⟨hn, _, hi, he, hst, hr⟩ := mk.inj h
    exact ⟨hn, schemas_eq_of_outline h, hi, he, hst, hr⟩
  · rintro ⟨hn, hs, hi, he, hst, hr⟩
    have hc : t.columns.map (fun col => Column.empty (R := R) col.schema) =
        u.columns.map (fun col => Column.empty col.schema) := by
      have hm := congrArg (List.map (Column.empty (R := R))) hs
      simpa [schemas, Function.comp_def] using hm
    simp only [outline, hn, hc, hi, he, hst, hr]

lemma outline_set (t : Table R) (c : ComponentId) (row : Nat) (cell : Buffer R) :
    (t.set c row cell).outline = t.outline :=
  outline_eq_iff.2 ⟨rfl, set_schemas t c row cell, rfl, rfl, rfl, rfl⟩

end Table

namespace Store

def outline (s : Store R V) : Store R V := { s with tables := s.tables.map Table.outline }

variable {s u : Store R V} {p : Placement} {c : ComponentId}

lemma tables_outline (s : Store R V) (t : Nat) : s.outline.tables[t]? = (s.tables[t]?).map Table.outline :=
  Array.getElem?_map

@[simp] lemma entityAt?_outline : s.outline.entityAt? p = s.entityAt? p := by
  simp only [entityAt?]
  rw [tables_outline]
  cases s.tables[p.table]? <;> rfl

@[simp] lemma stampAt?_outline : s.outline.stampAt? p = s.stampAt? p := by
  simp only [stampAt?]
  rw [tables_outline]
  cases s.tables[p.table]? <;> rfl

@[simp] lemma stores_outline : s.outline.stores c p = s.stores c p := by
  simp only [stores]
  rw [tables_outline]
  cases s.tables[p.table]? <;> rfl

@[simp] lemma locate?_outline {e : EntityId} : s.outline.locate? e c = s.locate? e c := by
  have hs : s.outline.stores c = s.stores c := funext fun _ => stores_outline
  simp only [locate?, hs]
  rfl

lemma table_of_outline (h : s.outline = u.outline) {t : Nat} {table : Table R} (ht : s.tables[t]? = some table) :
    ∃ other, u.tables[t]? = some other ∧ table.outline = other.outline := by
  have he := tables_outline u t
  rw [← h, tables_outline, ht] at he
  obtain ⟨other, ho, heq⟩ := Option.map_eq_some_iff.1 he.symm
  exact ⟨other, ho, heq.symm⟩

lemma eq_of_outline (h : u.outline = s.outline) : ∃ tables, u = { s with tables } := by
  obtain ⟨he, _, ha, hr, hh, hp, hn, hst, hf, has⟩ := mk.inj h
  obtain ⟨_, tables, _, _, _, _, _, _, _, _⟩ := u
  cases he; cases ha; cases hr; cases hh; cases hp; cases hn; cases hst; cases hf; cases has
  exact ⟨tables, rfl⟩

lemma locate?_of_outline (h : u.outline = s.outline) (e : EntityId) (c : ComponentId) :
    u.locate? e c = s.locate? e c := by
  rw [← locate?_outline, h, locate?_outline]

lemma schema?_of_outline (h : u.outline = s.outline) (c : ComponentId) : u.schema? c = s.schema? c := by
  obtain ⟨_, rfl⟩ := eq_of_outline h
  rfl

section Set

variable {schema : Schema} {q : Placement} {v : schema.Value R}

lemma tables_set (t : Nat) : (s.set schema q v).tables[t]? =
    if t = q.table then (s.tables[t]?).map (·.set schema.id q.row (.ofValue v)) else s.tables[t]? := by
  simp only [set, Array.getElem?_modify, eq_comm]

lemma outline_set (s : Store R V) (schema : Schema) (q : Placement) (v : schema.Value R) :
    (s.set schema q v).outline = s.outline := by
  have ht : (s.set schema q v).tables.map Table.outline = s.tables.map Table.outline := by
    apply Array.ext_getElem?
    intro t
    rw [Array.getElem?_map, tables_set, Array.getElem?_map]
    split
    · cases s.tables[t]? with
      | none => rfl
      | some table => exact congrArg some (table.outline_set _ _ _)
    · rfl
  simp only [outline, ht]
  rfl

lemma cellAt?_set {table : Table R} {col : Column R} (ht : s.tables[q.table]? = some table) (hv : table.Valid)
    (hcol : table.column? schema.id = some col) (hl : col.schema.layout = schema.layout)
    (hr : q.row < table.size) :
    (s.set schema q v).cellAt? p c =
      if p = q ∧ c = schema.id then some (.ofValue v) else s.cellAt? p c := by
  obtain ⟨t, row⟩ := p
  obtain ⟨u, target⟩ := q
  simp only [cellAt?, tables_set, Placement.mk.injEq]
  by_cases hu : t = u
  · subst hu
    have hf : (Buffer.ofValue v).Fits col.schema.layout := by
      rw [hl]
      exact Buffer.ofValue_fits v
    simp only [ht, if_true, Option.map_some, Option.bind_some, true_and, Table.cell?_set hv hcol hf hr]
  · simp [hu]

end Set

end Store

end ColumnSim
