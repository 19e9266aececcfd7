import ColumnSim.Proofs.Outline

/-! The invariant of stores: the indices, the tables and the stamps agree. -/

namespace ColumnSim.Store

variable {R : Type} {V : AssetKind → Type} {s : Store R V}

structure Valid (s : Store R V) : Prop where
  tables : ∀ {t : Nat} {table}, s.tables[t]? = some table → table.Valid
  archetypes : ∀ name (t : Nat), s.archetypes[name]? = some t ↔ ∃ table, s.tables[t]? = some table ∧ table.name = name
  holders : ∀ c t, t ∈ s.holdersOf c ↔ ∃ table, s.tables[t]? = some table ∧ table.hasColumn c = true
  holders_ascending : ∀ c, (s.holdersOf c).Pairwise (· < ·)
  hasComponent : ∀ c, s.hasComponent c = true ↔ s.holdersOf c ≠ []
  registered : ∀ c, (s.schema? c).isSome = true ↔ s.hasComponent c = true
  schema_id : ∀ {c schema}, s.schema? c = some schema → schema.id = c
  layouts : ∀ {t : Nat} {table schema}, s.tables[t]? = some table → schema ∈ table.schemas →
    ∃ registered, s.schema? schema.id = some registered ∧ registered.layout = schema.layout
  placements : ∀ e p, p ∈ s.placementsOf e ↔ s.entityAt? p = some e
  placements_nodup : ∀ e, (s.placementsOf e).Nodup
  unique : ∀ {e c p q}, s.entityAt? p = some e → s.entityAt? q = some e → s.stores c p = true → s.stores c q = true →
    p = q
  spawned : ∀ {e p}, s.entityAt? p = some e → s.entities.contains e = true
  stamps : ∀ n, n < s.nextStamp ↔ ∃ p, s.stampAt? p = some n
  stamps_injective : ∀ {p q n}, s.stampAt? p = some n → s.stampAt? q = some n → p = q
  stamps_ascending : ∀ {t i j m n}, s.stampAt? ⟨t, i⟩ = some m → s.stampAt? ⟨t, j⟩ = some n → i < j → m < n

lemma empty_valid : (empty : Store R V).Valid where
  tables h := by simp [empty] at h
  archetypes name t := by simp [empty]
  holders c t := by simp [empty, holdersOf]
  holders_ascending c := by simp [empty, holdersOf]
  hasComponent c := by simp [empty, holdersOf, Store.hasComponent]
  registered c := by simp [empty, schema?, Store.hasComponent]
  schema_id h := by simp [empty, schema?] at h
  layouts h := by simp [empty] at h
  placements e p := by simp [empty, placementsOf, entityAt?]
  placements_nodup e := by simp [empty, placementsOf]
  unique h := by simp [empty, entityAt?] at h
  spawned h := by simp [empty, entityAt?] at h
  stamps n := by simp [empty, stampAt?]
  stamps_injective h := by simp [empty, stampAt?] at h
  stamps_ascending h := by simp [empty, stampAt?] at h

namespace Valid

variable {t : Nat} {e : EntityId} {c : ComponentId} {p : Placement}

lemma locate?_eq_some_iff (hs : s.Valid) : s.locate? e c = some p ↔ s.entityAt? p = some e ∧ s.stores c p = true := by
  constructor
  · intro h
    exact ⟨(hs.placements e p).1 (List.mem_of_find?_eq_some h), by simpa using List.find?_some h⟩
  · rintro ⟨he, hc⟩
    have hp := (hs.placements e p).2 he
    have hsome : (s.locate? e c).isSome = true := List.find?_isSome.2 ⟨p, hp, hc⟩
    obtain ⟨q, hq⟩ := Option.isSome_iff_exists.1 hsome
    have heq := (hs.placements e q).1 (List.mem_of_find?_eq_some hq)
    have hcq : s.stores c q = true := by simpa using List.find?_some hq
    rw [hq, hs.unique heq he hcq hc]

lemma locate?_eq_none_iff (hs : s.Valid) :
    s.locate? e c = none ↔ ∀ p, s.entityAt? p = some e → s.stores c p = false := by
  rw [Option.eq_none_iff_forall_ne_some]
  apply forall_congr'
  intro p
  rw [Ne, hs.locate?_eq_some_iff, not_and, Bool.not_eq_true]

lemma of_outline {u : Store R V} (hs : s.Valid) (h : u.outline = s.outline)
    (ht : ∀ (t : Nat) table, u.tables[t]? = some table → table.Valid) : u.Valid := by
  have hentity : ∀ p, u.entityAt? p = s.entityAt? p := fun p => by
    rw [← entityAt?_outline, h, entityAt?_outline]
  have hstamp : ∀ p, u.stampAt? p = s.stampAt? p := fun p => by rw [← stampAt?_outline, h, stampAt?_outline]
  have hstores : ∀ c p, u.stores c p = s.stores c p := fun c p => by rw [← stores_outline, h, stores_outline]
  have htable : ∀ (t : Nat) (P : Table R → Prop), (∀ a b, a.outline = b.outline → P a → P b) →
      ((∃ table, s.tables[t]? = some table ∧ P table) ↔ ∃ table, u.tables[t]? = some table ∧ P table) := by
    intro t P hP
    constructor
    · rintro ⟨table, hts, hp⟩
      obtain ⟨other, htu, ho⟩ := table_of_outline h.symm hts
      exact ⟨other, htu, hP _ _ ho hp⟩
    · rintro ⟨table, htu, hp⟩
      obtain ⟨other, hts, ho⟩ := table_of_outline h htu
      exact ⟨other, hts, hP _ _ ho hp⟩
  obtain ⟨tables, rfl⟩ := eq_of_outline h
  exact {
    tables := fun hu => ht _ _ hu
    archetypes := fun name t => (hs.archetypes name t).trans
      (htable t (·.name = name) fun a b ho hn => (Table.outline_eq_iff.1 ho).1 ▸ hn)
    holders := fun c t => (hs.holders c t).trans
      (htable t (·.hasColumn c = true) fun a b ho hc => by
        rwa [Table.hasColumn, ← (Table.outline_eq_iff.1 ho).2.2.1])
    holders_ascending := hs.holders_ascending
    hasComponent := hs.hasComponent
    registered := hs.registered
    schema_id := fun hc => hs.schema_id hc
    layouts := fun hu hm => by
      obtain ⟨other, hts, ho⟩ := table_of_outline h hu
      exact hs.layouts hts (Table.schemas_eq_of_outline ho ▸ hm)
    placements := fun e p => (hs.placements e p).trans (by rw [hentity p])
    placements_nodup := hs.placements_nodup
    unique := fun hp hq hcp hcq => hs.unique (hentity _ ▸ hp) (hentity _ ▸ hq) (hstores _ _ ▸ hcp) (hstores _ _ ▸ hcq)
    spawned := fun hp => hs.spawned (hentity _ ▸ hp)
    stamps := fun n => (hs.stamps n).trans (exists_congr fun p => by rw [hstamp p])
    stamps_injective := fun hp hq => hs.stamps_injective (hstamp _ ▸ hp) (hstamp _ ▸ hq)
    stamps_ascending := fun hi hj => hs.stamps_ascending (hstamp _ ▸ hi) (hstamp _ ▸ hj) }

section AddTable

variable {u : Nat} {name : ArchetypeName} {schemas : List Schema}

lemma archetypes_addTable (hs : s.Valid) (hname : s.archetypes[name]? = none) {other : ArchetypeName} :
    (s.addTable name schemas).archetypes[other]? = some u ↔
      ∃ table, (s.addTable name schemas).tables[u]? = some table ∧ table.name = other := by
  rw [exists_table_addTable, ← hs.archetypes other u]
  simp only [Store.addTable, Std.TreeMap.getElem?_insert, Std.LawfulEqCmp.compare_eq_iff_eq]
  by_cases hn : name = other
  · subst hn
    simp [hname, Table.empty, eq_comm]
  · simp [hn, Table.empty]

lemma mem_holdersOf_addTable (hs : s.Valid) (hn : (schemas.map Schema.id).Nodup) :
    u ∈ (s.addTable name schemas).holdersOf c ↔
      ∃ table, (s.addTable name schemas).tables[u]? = some table ∧ table.hasColumn c = true := by
  rw [exists_table_addTable, ← hs.holders c u, (Table.empty_valid name hn).hasColumn_iff, Table.schemas_empty,
    holdersOf_addTable hn]
  split
  · rename_i hc
    simp [hc, or_comm]
  · rename_i hc
    simp [hc]

lemma holdersOf_addTable_pairwise (hs : s.Valid) (hn : (schemas.map Schema.id).Nodup) :
    ((s.addTable name schemas).holdersOf c).Pairwise (· < ·) := by
  rw [holdersOf_addTable hn]
  split
  · refine List.pairwise_append.2 ⟨hs.holders_ascending c, List.pairwise_singleton _ _, fun t ht u hu => ?_⟩
    obtain ⟨table, htable, _⟩ := (hs.holders c t).1 ht
    rw [List.mem_singleton.1 hu]
    exact (Array.getElem?_eq_some_iff.1 htable).1
  · exact hs.holders_ascending c

lemma exists_schema?_addTable (hs : s.Valid) (hn : (schemas.map Schema.id).Nodup)
    (hl : ∀ schema ∈ schemas, ∀ registered, s.schema? schema.id = some registered →
      registered.layout = schema.layout) {table : Table R} {schema : Schema}
    (ht : (s.addTable name schemas).tables[u]? = some table) (hm : schema ∈ table.schemas) :
    ∃ registered, (s.addTable name schemas).schema? schema.id = some registered ∧
      registered.layout = schema.layout := by
  rw [schema?_addTable]
  rw [tables_addTable] at ht
  split at ht
  · cases ht
    rw [Table.schemas_empty] at hm
    cases hr : s.schema? schema.id with
    | some registered => exact ⟨registered, rfl, hl schema hm registered hr⟩
    | none => exact ⟨schema, (find?_eq_some_iff_mem hn).2 ⟨hm, rfl⟩, rfl⟩
  · obtain ⟨registered, hr, hlay⟩ := hs.layouts ht hm
    exact ⟨registered, by rw [hr, Option.some_or], hlay⟩

lemma addTable (hs : s.Valid) (hname : s.archetypes[name]? = none) (hn : (schemas.map Schema.id).Nodup)
    (hl : ∀ schema ∈ schemas, ∀ registered, s.schema? schema.id = some registered →
      registered.layout = schema.layout) :
    (s.addTable name schemas).Valid where
  tables ht := by
    rw [tables_addTable] at ht
    split at ht
    · cases ht
      exact Table.empty_valid name hn
    · exact hs.tables ht
  archetypes _ _ := hs.archetypes_addTable hname
  holders _ _ := hs.mem_holdersOf_addTable hn
  holders_ascending _ := hs.holdersOf_addTable_pairwise hn
  hasComponent c := by
    have hold := hs.hasComponent c
    rw [hasComponent_addTable hn, holdersOf_addTable hn]
    split <;> simp [*]
  registered c := by
    have hold := hs.registered c
    rw [hasComponent_addTable hn, schema?_addTable, Option.isSome_or, Bool.or_eq_true, hold, List.find?_isSome]
    simp only [List.mem_map, decide_eq_true_eq]
    exact or_comm
  schema_id h := by
    rw [schema?_addTable, Option.or_eq_some_iff] at h
    rcases h with h | ⟨_, h⟩
    · exact hs.schema_id h
    · simpa using List.find?_some h
  layouts ht hm := hs.exists_schema?_addTable hn hl ht hm
  placements e p := by
    rw [entityAt?_addTable]
    exact hs.placements e p
  placements_nodup := hs.placements_nodup
  unique hp hq hcp hcq := by
    rw [entityAt?_addTable] at hp hq
    rw [stores_addTable hp] at hcp
    rw [stores_addTable hq] at hcq
    exact hs.unique hp hq hcp hcq
  spawned hp := by
    rw [entityAt?_addTable] at hp
    exact hs.spawned hp
  stamps n := by
    simp only [stampAt?_addTable]
    exact hs.stamps n
  stamps_injective hp hq := by
    rw [stampAt?_addTable] at hp hq
    exact hs.stamps_injective hp hq
  stamps_ascending hi hj := by
    rw [stampAt?_addTable] at hi hj
    exact hs.stamps_ascending hi hj

end AddTable

lemma frame (hs : s.Valid) {entities : Allocator} {names : Std.TreeMap EntityId String} {frozen : Bool}
    {assets : Assets V} (h : ∀ {e}, s.entities.contains e = true → entities.contains e = true) :
    ({ s with entities, names, frozen, assets } : Store R V).Valid where
  tables := hs.tables
  archetypes := hs.archetypes
  holders := hs.holders
  holders_ascending := hs.holders_ascending
  hasComponent := hs.hasComponent
  registered := hs.registered
  schema_id := hs.schema_id
  layouts := hs.layouts
  placements := hs.placements
  placements_nodup := hs.placements_nodup
  unique := hs.unique
  spawned hp := h (hs.spawned hp)
  stamps := hs.stamps
  stamps_injective := hs.stamps_injective
  stamps_ascending := hs.stamps_ascending

section PushRow

variable {f : EntityId} {q : Placement} {n : Nat} {table : Table R} {values : List (ComponentValue R)}

lemma mem_placementsOf_pushRow (hs : s.Valid) (ht : s.tables[t]? = some table) :
    p ∈ (s.pushRow t e values).placementsOf f ↔ (s.pushRow t e values).entityAt? p = some f := by
  rw [placementsOf_pushRow ht, entityAt?_pushRow ht]
  have hold := hs.placements
  split
  · rename_i hf
    subst hf
    rw [List.mem_append, List.mem_singleton, hold]
    split
    · rename_i hp
      simp [hp]
    · rename_i hp
      simp [hp]
  · rename_i hf
    rw [hold]
    split
    · rename_i hp
      subst hp
      have hfree : s.entityAt? ⟨t, table.size⟩ = none := entityAt?_end ht (Nat.le_refl _)
      simp [hfree, Ne.symm hf]
    · rfl

lemma nodup_placementsOf_pushRow (hs : s.Valid) (ht : s.tables[t]? = some table) :
    ((s.pushRow t e values).placementsOf f).Nodup := by
  rw [placementsOf_pushRow ht]
  split
  · refine List.nodup_append.2 ⟨hs.placements_nodup e, List.nodup_singleton _, fun p hp q hq hpq => ?_⟩
    rw [List.mem_singleton.1 hq] at hpq
    rw [hs.placements, hpq, entityAt?_end ht (Nat.le_refl _)] at hp
    cases hp
  · exact hs.placements_nodup f

lemma not_stores_of_new (hs : s.Valid) (ht : s.tables[t]? = some table)
    (hnew : ∀ c, table.hasColumn c = true → s.locate? e c = none) (hp : s.entityAt? p = some e)
    (hcp : s.stores c p = true) : ¬s.stores c ⟨t, n⟩ = true := by
  intro hcn
  obtain ⟨other, ho, hcol⟩ := stores_iff.1 hcn
  rw [ht] at ho
  cases ho
  exact Bool.false_ne_true ((hs.locate?_eq_none_iff.1 (hnew c hcol) p hp).symm.trans hcp)

lemma eq_of_stores_pushRow (hs : s.Valid) (ht : s.tables[t]? = some table)
    (hnew : ∀ c, table.hasColumn c = true → s.locate? e c = none)
    (hp : (s.pushRow t e values).entityAt? p = some f) (hq : (s.pushRow t e values).entityAt? q = some f)
    (hcp : (s.pushRow t e values).stores c p = true) (hcq : (s.pushRow t e values).stores c q = true) : p = q := by
  rw [stores_pushRow ht] at hcp hcq
  rw [entityAt?_pushRow ht] at hp hq
  split at hp
  · rename_i hpn
    cases hp
    split at hq
    · rename_i hqn
      exact hpn.trans hqn.symm
    · exact (hs.not_stores_of_new ht hnew hq hcq (hpn ▸ hcp)).elim
  · split at hq
    · rename_i hqn
      cases hq
      exact (hs.not_stores_of_new ht hnew hp hcp (hqn ▸ hcq)).elim
    · exact hs.unique hp hq hcp hcq

lemma lt_nextStamp_pushRow (hs : s.Valid) (ht : s.tables[t]? = some table) :
    n < (s.pushRow t e values).nextStamp ↔ ∃ p, (s.pushRow t e values).stampAt? p = some n := by
  have hst := (hs.tables ht).stamps
  have hlt : n < (s.pushRow t e values).nextStamp ↔ n < s.nextStamp ∨ n = s.nextStamp :=
    Nat.lt_succ_iff_lt_or_eq
  rw [hlt, hs.stamps n]
  constructor
  · rintro (⟨p, hp⟩ | hn)
    · refine ⟨p, ?_⟩
      rw [stampAt?_pushRow ht hst, if_neg fun hpn => ?_, hp]
      rw [hpn, stampAt?_end ht hst (Nat.le_refl _)] at hp
      cases hp
    · exact ⟨⟨t, table.size⟩, by rw [stampAt?_pushRow ht hst, if_pos rfl, hn]⟩
  · rintro ⟨p, hp⟩
    rw [stampAt?_pushRow ht hst] at hp
    split at hp
    · exact .inr (Option.some.inj hp).symm
    · exact .inl ⟨p, hp⟩

lemma stampAt?_ne_nextStamp (hs : s.Valid) : s.stampAt? p ≠ some s.nextStamp := fun hp =>
  Nat.lt_irrefl _ ((hs.stamps s.nextStamp).2 ⟨p, hp⟩)

lemma eq_of_stampAt?_pushRow (hs : s.Valid) (ht : s.tables[t]? = some table)
    (hp : (s.pushRow t e values).stampAt? p = some n) (hq : (s.pushRow t e values).stampAt? q = some n) : p = q := by
  have hst := (hs.tables ht).stamps
  rw [stampAt?_pushRow ht hst] at hp hq
  split at hp
  · rename_i hpn
    cases hp
    split at hq
    · rename_i hqn
      exact hpn.trans hqn.symm
    · exact (hs.stampAt?_ne_nextStamp hq).elim
  · split at hq
    · cases hq
      exact (hs.stampAt?_ne_nextStamp hp).elim
    · exact hs.stamps_injective hp hq

lemma lt_of_stampAt?_pushRow (hs : s.Valid) (ht : s.tables[t]? = some table) {u i j m : Nat}
    (hi : (s.pushRow t e values).stampAt? ⟨u, i⟩ = some m) (hj : (s.pushRow t e values).stampAt? ⟨u, j⟩ = some n)
    (hij : i < j) : m < n := by
  have hst := (hs.tables ht).stamps
  rw [stampAt?_pushRow ht hst] at hi hj
  split at hi
  · rename_i hin
    cases hin
    have hne : ¬(⟨t, j⟩ : Placement) = ⟨t, table.size⟩ := fun hjn => Nat.ne_of_gt hij (Placement.mk.inj hjn).2
    rw [if_neg hne, stampAt?_end ht hst (Nat.le_of_lt hij)] at hj
    cases hj
  · split at hj
    · cases hj
      exact (hs.stamps m).2 ⟨_, hi⟩
    · exact hs.stamps_ascending hi hj hij

lemma pushRow (hs : s.Valid) (ht : s.tables[t]? = some table) (hv : values.map (·.schema) = table.schemas)
    (he : s.entities.contains e = true) (hnew : ∀ c, table.hasColumn c = true → s.locate? e c = none) :
    (s.pushRow t e values).Valid where
  tables {u _} hu := by
    rw [tables_pushRow ht] at hu
    split at hu
    · cases hu
      exact (hs.tables ht).push hv e _
    · exact hs.tables hu
  archetypes n u := by
    rw [exists_table_pushRow ht Iff.rfl]
    exact hs.archetypes n u
  holders c u := by
    rw [exists_table_pushRow ht Iff.rfl]
    exact hs.holders c u
  holders_ascending := hs.holders_ascending
  hasComponent := hs.hasComponent
  registered := hs.registered
  schema_id := hs.schema_id
  layouts {u _ schema} hu hm := by
    rw [tables_pushRow ht] at hu
    split at hu
    · cases hu
      rw [Table.push_schemas hv] at hm
      exact hs.layouts ht hm
    · exact hs.layouts hu hm
  placements _ _ := hs.mem_placementsOf_pushRow ht
  placements_nodup _ := hs.nodup_placementsOf_pushRow ht
  unique hp hq hcp hcq := hs.eq_of_stores_pushRow ht hnew hp hq hcp hcq
  spawned {f p} hp := by
    rw [entityAt?_pushRow ht] at hp
    split at hp
    · cases hp
      exact he
    · exact hs.spawned hp
  stamps _ := hs.lt_nextStamp_pushRow ht
  stamps_injective hp hq := hs.eq_of_stampAt?_pushRow ht hp hq
  stamps_ascending hi hj hij := hs.lt_of_stampAt?_pushRow ht hi hj hij

end PushRow

end Valid

end ColumnSim.Store
