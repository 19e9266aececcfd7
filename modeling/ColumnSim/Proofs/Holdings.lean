import ColumnSim.Proofs.Reachable

namespace ColumnSim.Store

variable {R : Type} {V : AssetKind → Type} {s u : Store R V} {e f : EntityId} {c : ComponentId} {schema : Schema}

def holdings (s : Store R V) : List (EntityId × Schema) :=
  s.tables.toList.flatMap fun table => table.entities.toList.flatMap fun e => table.schemas.map (e, ·)

lemma mem_holdings_iff : (e, schema) ∈ s.holdings ↔
    ∃ (t : Nat) (table : Table R), s.tables[t]? = some table ∧ schema ∈ table.schemas ∧ e ∈ table.entities := by
  simp only [holdings, List.mem_flatMap, Array.mem_toList_iff, List.mem_map, Prod.mk.injEq]
  constructor
  · rintro ⟨table, ht, f, hf, a, ha, rfl, rfl⟩
    obtain ⟨t, ht⟩ := Array.mem_iff_getElem?.1 ht
    exact ⟨t, table, ht, ha, hf⟩
  · rintro ⟨t, table, ht, ha, he⟩
    exact ⟨table, Array.mem_of_getElem? ht, e, he, schema, ha, rfl, rfl⟩

lemma holds_iff_mem_holdings : s.Holds e c ↔ ∃ schema, (e, schema) ∈ s.holdings ∧ schema.id = c := by
  simp only [mem_holdings_iff, Holds]
  constructor
  · rintro ⟨table, ht, hc, he⟩
    obtain ⟨t, ht⟩ := Array.mem_iff_getElem?.1 ht
    obtain ⟨schema, hm, rfl⟩ := List.mem_map.1 hc
    exact ⟨schema, ⟨t, table, ht, hm, he⟩, rfl⟩
  · rintro ⟨schema, ⟨t, table, ht, hm, he⟩, rfl⟩
    exact ⟨table, Array.mem_of_getElem? ht, List.mem_map_of_mem hm, he⟩

lemma Valid.registersAs_of_mem_holdings (hs : s.Valid) (h : (e, schema) ∈ s.holdings) : s.RegistersAs schema := by
  obtain ⟨t, table, ht, hm, _⟩ := mem_holdings_iff.1 h
  exact hs.layouts ht hm

lemma holdings_of_outline (h : u.outline = s.outline) : u.holdings = s.holdings := by
  have hout : ∀ s : Store R V, s.outline.holdings = s.holdings := fun s => by
    simp [holdings, outline, List.flatMap_map, Table.outline, Table.schemas, Column.empty, Function.comp_def]
  rw [← hout u, h, hout s]

section Insert

variable {t : Nat} {table : Table R} {b : Bundle R} {registered : Schema}

lemma holdings_addTable {name : ArchetypeName} {schemas : List Schema} :
    (s.addTable name schemas).holdings = s.holdings := by
  simp [holdings, addTable, Table.empty]

lemma holdings_tableFor (h : s.tableFor b = (t, u)) : u.holdings = s.holdings := by
  obtain ⟨_, rfl⟩ | ⟨_, _, rfl⟩ := tableFor_cases h
  · rfl
  · exact holdings_addTable

lemma schema?_tableFor (h : s.tableFor b = (t, u)) (hr : u.schema? c = some registered) :
    s.schema? c = some registered ∨ registered ∈ b.schemas := by
  obtain ⟨_, rfl⟩ | ⟨_, _, rfl⟩ := tableFor_cases h
  · exact .inl hr
  · rw [schema?_addTable] at hr
    rcases Option.or_eq_some_iff.1 hr with hr | ⟨_, hr⟩
    · exact .inl hr
    · exact .inr (List.mem_of_find?_eq_some hr)

lemma mem_holdings_pushRow {values : List (ComponentValue R)} (ht : s.tables[t]? = some table)
    (hv : values.map (·.schema) = table.schemas) : (f, schema) ∈ (s.pushRow t e values).holdings ↔
      (f = e ∧ schema ∈ table.schemas) ∨ (f, schema) ∈ s.holdings := by
  rw [mem_holdings_iff, mem_holdings_iff]
  simp only [tables_pushRow ht]
  constructor
  · rintro ⟨i, other, hi, hm, hf⟩
    split at hi
    · cases hi
      rw [Table.push_schemas hv] at hm
      rcases Array.mem_push.1 hf with hf | rfl
      · exact .inr ⟨t, table, ht, hm, hf⟩
      · exact .inl ⟨rfl, hm⟩
    · exact .inr ⟨i, other, hi, hm, hf⟩
  · rintro (⟨rfl, hm⟩ | ⟨i, other, hi, hm, hf⟩)
    · exact ⟨t, _, if_pos rfl, (Table.push_schemas hv).symm ▸ hm, Array.mem_push_self⟩
    · by_cases hit : i = t
      · subst hit
        rw [ht] at hi
        cases hi
        exact ⟨i, _, if_pos rfl, (Table.push_schemas hv).symm ▸ hm, Array.mem_push.2 (.inl hf)⟩
      · exact ⟨i, other, (if_neg hit).trans hi, hm, hf⟩

lemma Valid.mem_holdings_insert (hs : s.Valid) (hb : s.Accepts b) : (f, schema) ∈ (s.insert e b).holdings ↔
    (f = e ∧ schema ∈ b.schemas) ∨ (f, schema) ∈ s.holdings := by
  obtain ⟨t, u, table, htu, hp⟩ := hs.tableFor hb
  rw [Store.insert, htu, mem_holdings_pushRow hp.found hp.schemas.symm, hp.schemas, holdings_tableFor htu]

lemma schema?_insert (h : (s.insert e b).schema? c = some registered) :
    s.schema? c = some registered ∨ registered ∈ b.schemas :=
  schema?_tableFor rfl h

end Insert

def Attested (s : Store R V) : Prop :=
  ∀ c registered, s.schema? c = some registered → ∃ e, (e, registered) ∈ s.holdings

lemma empty_attested : (empty : Store R V).Attested := fun c registered h => by simp [empty, schema?] at h

lemma Attested.insert {b : Bundle R} (h : s.Attested) (hs : s.Valid) (hb : s.Accepts b) (e : EntityId) :
    (s.insert e b).Attested := by
  intro c registered hr
  rcases schema?_insert hr with hr | hr
  · obtain ⟨f, hf⟩ := h c registered hr
    exact ⟨f, (hs.mem_holdings_insert hb).2 (.inr hf)⟩
  · exact ⟨e, (hs.mem_holdings_insert hb).2 (.inl ⟨rfl, hr⟩)⟩

lemma Step.attested {event : Event R V} (h : Step s event u) (hs : s.Valid) (ha : s.Attested) : u.Attested := by
  cases h with
  | spawned h =>
    obtain ⟨hb, rfl, rfl⟩ := spawn_eq_ok_iff.1 h
    have hallocated : ({ s with entities := s.entities.allocate.2 } : Store R V).Attested := ha
    exact hallocated.insert hs.allocate hb.allocate _
  | named => exact ha
  | attached h =>
    obtain ⟨ht, rfl⟩ := attach_eq_ok_iff.1 h
    exact ha.insert hs ht.accepts _
  | written h =>
    intro c registered hr
    rw [schema?_of_outline (outline_write h)] at hr
    rw [holdings_of_outline (outline_write h)]
    exact ha c registered hr
  | added => exact ha
  | frozen => exact ha

lemma Run.attested {events : List (Event R V)} (h : Run s events u) (hs : s.Valid) (ha : s.Attested) :
    u.Attested := by
  induction h with
  | nil => exact ha
  | cons h _ ih => exact ih (h.valid hs) (h.attested hs ha)

lemma Reachable.attested (hs : s.Reachable) : s.Attested := by
  obtain ⟨changes, rfl⟩ := hs
  exact (applyAll_run empty changes).attested empty_valid empty_attested

end ColumnSim.Store
