import ColumnSim.Proofs.Valid

/-! The cell that an entity holds for a component. It is the meaning of a store as a plain map. -/

namespace ColumnSim.Store

variable {R : Type} {V : AssetKind → Type} {s u : Store R V} {e : EntityId} {c : ComponentId} {p : Placement}

def cell? (s : Store R V) (e : EntityId) (c : ComponentId) : Option (Buffer R) :=
  (s.locate? e c).bind fun p => s.cellAt? p c

def Holds (s : Store R V) (e : EntityId) (c : ComponentId) : Prop :=
  ∃ table ∈ s.tables, c ∈ table.schemas.map Schema.id ∧ e ∈ table.entities

/-- A schema agrees with a store unless its component is registered with another layout. -/
def Agrees (s : Store R V) (schema : Schema) : Prop :=
  ∀ registered, s.schema? schema.id = some registered → registered.layout = schema.layout

def RegistersAs (s : Store R V) (schema : Schema) : Prop :=
  ∃ registered, s.schema? schema.id = some registered ∧ registered.layout = schema.layout

lemma RegistersAs.agrees {schema : Schema} (h : s.RegistersAs schema) : s.Agrees schema := by
  obtain ⟨registered, hr, hl⟩ := h
  intro other ho
  rw [hr] at ho
  cases ho
  exact hl

lemma RegistersAs.layout_eq {a b : Schema} (ha : s.RegistersAs a) (hb : s.RegistersAs b) (hid : a.id = b.id) :
    a.layout = b.layout := by
  obtain ⟨_, hra, hla⟩ := ha
  obtain ⟨_, hrb, hlb⟩ := hb
  rw [hid, hrb] at hra
  cases hra
  exact hla.symm.trans hlb

lemma RegistersAs.congr {a b : Schema} (ha : s.RegistersAs a) (hid : a.id = b.id) (hl : a.layout = b.layout) :
    s.RegistersAs b := by
  obtain ⟨registered, hr, hlr⟩ := ha
  exact ⟨registered, hid ▸ hr, hlr.trans hl⟩

lemma checkSchema_eq_ok_iff {schema : Schema} : s.checkSchema schema = .ok () ↔ s.Agrees schema := by
  rw [checkSchema, Agrees]
  cases s.schema? schema.id with
  | none => simp
  | some registered =>
    by_cases h : registered.layout = schema.layout <;> simp [h]

lemma checkSchema_congr {schema : Schema} (h : s.schema? schema.id = u.schema? schema.id) :
    s.checkSchema schema = u.checkSchema schema := by
  rw [checkSchema, checkSchema, h]

lemma value?_eq_cell? (s : Store R V) (schema : Schema) (e : EntityId) :
    s.value? schema e = (s.cell? e schema.id).bind (·.value? schema.layout) := by
  simp only [value?, cell?, cellAt?, Table.cell?]
  cases s.locate? e schema.id with
  | none => rfl
  | some p =>
    simp only [Option.bind_eq_bind, Option.bind_some]
    cases s.tables[p.table]? with
    | none => rfl
    | some table =>
      simp only [Option.bind_some]
      cases table.column? schema.id <;> rfl

lemma get_eq_ok (h : s.Agrees schema) (e : EntityId) : s.get schema e = .ok (s.value? schema e) := by
  rw [get, checkSchema_eq_ok_iff.2 h]
  rfl

lemma get_congr (h : u.outline = s.outline) {schema : Schema} (hc : u.cell? e schema.id = s.cell? e schema.id) :
    u.get schema e = s.get schema e := by
  rw [get, get, checkSchema_congr (schema?_of_outline h _), value?_eq_cell?, value?_eq_cell?, hc]

lemma get_of_cell? {schema : Schema} (ha : s.Agrees schema) {v : schema.Value R}
    (hc : s.cell? e schema.id = some (.ofValue v)) : s.get schema e = .ok (some v) := by
  rw [get_eq_ok ha, value?_eq_cell?, hc, Option.bind_some, Buffer.value?_ofValue]

namespace Valid

lemma cell?_eq_some_iff (hs : s.Valid) {cell : Buffer R} :
    s.cell? e c = some cell ↔ ∃ p, s.entityAt? p = some e ∧ s.cellAt? p c = some cell := by
  rw [cell?]
  rw [Option.bind_eq_some_iff]
  apply exists_congr
  intro p
  rw [hs.locate?_eq_some_iff, and_assoc]
  refine and_congr_right fun _ => and_iff_right_of_imp fun hc => ?_
  obtain ⟨table, ht, hcell⟩ := Option.bind_eq_some_iff.1 hc
  obtain ⟨col, hcol, _⟩ := Option.bind_eq_some_iff.1 hcell
  exact stores_iff.2 ⟨table, ht, (hs.tables ht).hasColumn_iff_column?.2 ⟨col, hcol⟩⟩

lemma holds_iff (hs : s.Valid) : s.Holds e c ↔ ∃ p, s.locate? e c = some p := by
  simp only [hs.locate?_eq_some_iff, entityAt?_eq_some_iff, stores_iff]
  constructor
  · rintro ⟨table, hm, hc, he⟩
    obtain ⟨t, ht⟩ := Array.mem_iff_getElem?.1 hm
    obtain ⟨row, hrow⟩ := Array.mem_iff_getElem?.1 he
    exact ⟨⟨t, row⟩, ⟨table, ht, hrow⟩, table, ht, (hs.tables ht).hasColumn_iff.2 hc⟩
  · rintro ⟨p, ⟨table, ht, he⟩, other, ho, hc⟩
    rw [ht] at ho
    cases ho
    exact ⟨table, Array.mem_of_getElem? ht, (hs.tables ht).hasColumn_iff.1 hc, Array.mem_of_getElem? he⟩

lemma spawned_of_holds (hs : s.Valid) (h : s.Holds e c) : s.entities.contains e = true := by
  obtain ⟨p, hp⟩ := hs.holds_iff.1 h
  exact hs.spawned (hs.locate?_eq_some_iff.1 hp).1

lemma cellAt?_of_locate? (hs : s.Valid) (h : s.locate? e c = some p) :
    ∃ cell registered, s.cellAt? p c = some cell ∧ s.schema? c = some registered ∧ cell.Fits registered.layout := by
  obtain ⟨he, hc⟩ := hs.locate?_eq_some_iff.1 h
  obtain ⟨table, ht, hcol⟩ := stores_iff.1 hc
  have hv := hs.tables ht
  obtain ⟨col, hcol⟩ := hv.hasColumn_iff_column?.1 hcol
  obtain ⟨cell, hcell, hf⟩ := hv.cell? hcol (row_lt_size ht he)
  obtain ⟨hm, rfl⟩ := hv.column?_eq_some_iff.1 hcol
  obtain ⟨registered, hr, hl⟩ := hs.layouts ht (List.mem_map_of_mem hm)
  exact ⟨cell, registered, by rw [cellAt?, ht, Option.bind_some, hcell], hr, hl ▸ hf⟩

lemma cell?_isSome (hs : s.Valid) : (s.cell? e c).isSome = (s.locate? e c).isSome := by
  rw [cell?]
  cases h : s.locate? e c with
  | none => rfl
  | some p =>
    obtain ⟨cell, _, hcell, _⟩ := hs.cellAt?_of_locate? h
    simp [hcell]

lemma cell?_isSome_iff (hs : s.Valid) : (s.cell? e c).isSome = true ↔ s.Holds e c := by
  rw [hs.cell?_isSome, hs.holds_iff, Option.isSome_iff_exists]

lemma cell?_eq_value? (hs : s.Valid) {schema : Schema} (ha : s.Agrees schema) :
    s.cell? e schema.id = (s.value? schema e).map Buffer.ofValue := by
  rw [value?_eq_cell?]
  cases hp : s.locate? e schema.id with
  | none => simp [cell?, hp]
  | some p =>
    obtain ⟨cell, registered, hcell, hr, hf⟩ := hs.cellAt?_of_locate? hp
    rw [ha registered hr] at hf
    obtain ⟨v, rfl⟩ := hf.eq_ofValue
    simp [cell?, hp, hcell, Buffer.value?_ofValue]

lemma value?_isSome_iff (hs : s.Valid) {schema : Schema} (ha : s.Agrees schema) :
    (s.value? schema e).isSome = true ↔ s.Holds e schema.id := by
  rw [← hs.cell?_isSome_iff, hs.cell?_eq_value? ha, Option.isSome_map]

end Valid

end ColumnSim.Store
