import ColumnSim.Proofs.Reachable
import ColumnSim.Proofs.Sort
import ColumnSim.Query

namespace ColumnSim

variable {R : Type} {V : AssetKind → Type} {s : Store R V} {inputs : List Schema} {e : EntityId} {c : ComponentId}

def Row.Reads (s : Store R V) (e : EntityId) : (inputs : List Schema) → Row R inputs → Prop
  | [], _ => True
  | schema :: inputs, (v, row) => s.get schema e = .ok (some v) ∧ Reads s e inputs row

namespace Store

def row? (s : Store R V) (inputs : List Schema) (e : EntityId) : Option (Row R inputs) :=
  Row.read? (fun schema => s.value? schema e) inputs

lemma row?_eq_some_iff (ha : ∀ schema ∈ inputs, s.Agrees schema) {row : Row R inputs} :
    s.row? inputs e = some row ↔ Row.Reads s e inputs row := by
  induction inputs with
  | nil => simp [row?, Row.read?, Row.Reads]
  | cons schema inputs ih =>
    obtain ⟨v, row⟩ := row
    have hrest : s.row? inputs e = some row ↔ Row.Reads s e inputs row :=
      ih fun other hm => ha other (List.mem_cons_of_mem _ hm)
    have hget := get_eq_ok (ha schema (List.mem_cons_self ..)) e
    rw [row?] at hrest
    rw [Row.Reads, hget, ← hrest, row?, Row.read?]
    cases s.value? schema e with
    | none => simp
    | some w => cases Row.read? (fun schema => s.value? schema e) inputs <;> simp

lemma row?_isSome_iff : (s.row? inputs e).isSome = true ↔ ∀ schema ∈ inputs, (s.value? schema e).isSome = true := by
  induction inputs with
  | nil => simp [row?, Row.read?]
  | cons schema inputs ih =>
    rw [List.forall_mem_cons, ← ih, row?, row?, Row.read?]
    cases s.value? schema e with
    | none => simp
    | some w => cases Row.read? (fun schema => s.value? schema e) inputs <;> simp

namespace Valid

lemma mem_entitiesWith_iff (hs : s.Valid) : e ∈ s.entitiesWith c ↔ s.Holds e c := by
  rw [entitiesWith, Holds]
  rw [List.mem_flatMap]
  constructor
  · rintro ⟨t, ht, he⟩
    obtain ⟨table, htable, hc⟩ := hs.mem_holdersOf_iff.1 ht
    simp only [htable, Array.mem_toList_iff] at he
    exact ⟨table, Array.mem_of_getElem? htable, hc, he⟩
  · rintro ⟨table, hm, hc, he⟩
    obtain ⟨t, htable⟩ := Array.mem_iff_getElem?.1 hm
    refine ⟨t, hs.mem_holdersOf_iff.2 ⟨table, htable, hc⟩, ?_⟩
    simpa only [htable, Array.mem_toList_iff] using he

lemma entitiesWith_nodup (hs : s.Valid) : (s.entitiesWith c).Nodup := by
  have hone : ∀ {t u i j : Nat} {e a b}, t ∈ s.holdersOf c → u ∈ s.holdersOf c → s.tables[t]? = some a →
      s.tables[u]? = some b → a.entities.toList[i]? = some e → b.entities.toList[j]? = some e → t = u ∧ i = j := by
    intro t u i j e a b ht hu ha hb hi hj
    rw [Array.getElem?_toList] at hi hj
    have hp := entityAt?_eq_some_iff (p := ⟨t, i⟩).2 ⟨a, ha, hi⟩
    have hq := entityAt?_eq_some_iff (p := ⟨u, j⟩).2 ⟨b, hb, hj⟩
    -- Both tables store the component, and an entity has one row for it.
    have heq := hs.unique hp hq (stores_iff.2 ((hs.holders c t).1 ht)) (stores_iff.2 ((hs.holders c u).1 hu))
    exact Placement.mk.inj heq
  rw [entitiesWith]
  refine List.nodup_flatMap.2 ⟨fun t ht => ?_, (hs.holders_ascending c).imp_of_mem fun {t u} ht hu htu => ?_⟩
  · obtain ⟨a, ha, _⟩ := (hs.holders c t).1 ht
    simp only [ha]
    refine List.nodup_iff_getElem?_ne_getElem?.2 fun i j hij hj he => ?_
    have hlast := List.getElem?_eq_getElem hj
    exact Nat.ne_of_lt hij (hone ht ht ha ha (he.trans hlast) hlast).2
  · obtain ⟨a, ha, _⟩ := (hs.holders c t).1 ht
    obtain ⟨b, hb, _⟩ := (hs.holders c u).1 hu
    simp only [Function.onFun, ha, hb]
    intro e hea heb
    obtain ⟨i, hi⟩ := List.mem_iff_getElem?.1 hea
    obtain ⟨j, hj⟩ := List.mem_iff_getElem?.1 heb
    exact Nat.ne_of_lt htu (hone ht hu ha hb hi hj).1

lemma valueFrom?_eq (hs : s.Valid) {t row : Nat} {table : Table R} (ht : s.tables[t]? = some table)
    (he : table.entities[row]? = some e) (schema : Schema) :
    s.valueFrom? table row e schema = s.value? schema e := by
  rw [valueFrom?]
  split
  · rename_i col hcol
    obtain ⟨hcol, _⟩ := Option.filter_eq_some_iff.1 hcol
    have hstores : s.stores schema.id ⟨t, row⟩ = true :=
      stores_iff.2 ⟨table, ht, (hs.tables ht).hasColumn_iff_column?.2 ⟨col, hcol⟩⟩
    have hlocate := hs.locate?_eq_some_iff.2 ⟨entityAt?_eq_some_iff.2 ⟨table, ht, he⟩, hstores⟩
    simp [value?, hlocate, ht, hcol]
  · rfl

lemma joinTable_eq (hs : s.Valid) {t : Nat} {table : Table R} (ht : s.tables[t]? = some table) :
    s.joinTable inputs t = table.entities.toList.filterMap fun e => (s.row? inputs e).map (e, ·) := by
  have hread : ∀ entry ∈ table.entities.toList.zipIdx,
      (Row.read? (s.valueFrom? table entry.2 entry.1) inputs).map (entry.1, ·) =
        (s.row? inputs entry.1).map (entry.1, ·) := by
    intro entry hm
    have he := List.mem_zipIdx_iff_getElem?.1 hm
    rw [Array.getElem?_toList] at he
    rw [row?, funext (hs.valueFrom?_eq ht he)]
  rw [joinTable, ht]
  dsimp only
  rw [List.filterMap_congr hread]
  conv_rhs => rw [← List.zipIdx_map_fst 0 table.entities.toList, List.filterMap_map]
  rfl

lemma joinBy_eq (hs : s.Valid) : s.joinBy inputs c =
    sortBy (·.1.raw) ((s.entitiesWith c).filterMap fun e => (s.row? inputs e).map (e, ·)) := by
  rw [joinBy, entitiesWith, List.filterMap_flatMap]
  refine congrArg _ (List.flatMap_congr fun t ht => ?_)
  obtain ⟨table, htable, _⟩ := (hs.holders c t).1 ht
  rw [hs.joinTable_eq htable, htable]

lemma joinBy_strict (hs : s.Valid) : (s.joinBy inputs c).Pairwise (·.1.raw < ·.1.raw) := by
  rw [hs.joinBy_eq]
  apply sortBy_strict
  rw [List.map_filterMap]
  apply hs.entitiesWith_nodup.filterMap
  intro e f n he hf
  simp only [Option.map_map, Option.mem_def, Option.map_eq_some_iff, Function.comp_apply] at he hf
  obtain ⟨_, _, rfl⟩ := he
  obtain ⟨_, _, hraw⟩ := hf
  exact congrArg EntityId.mk hraw.symm

lemma mem_joinBy_iff (hs : s.Valid) (ha : ∀ schema ∈ inputs, s.Agrees schema) (hc : c ∈ inputs.map Schema.id)
    {row : Row R inputs} : (e, row) ∈ s.joinBy inputs c ↔ Row.Reads s e inputs row := by
  rw [hs.joinBy_eq, mem_sortBy, List.mem_filterMap, ← row?_eq_some_iff ha]
  constructor
  · rintro ⟨f, _, hrow⟩
    obtain ⟨read, hread, heq⟩ := Option.map_eq_some_iff.1 hrow
    cases heq
    exact hread
  · intro hrow
    obtain ⟨schema, hm, rfl⟩ := List.mem_map.1 hc
    have hv := row?_isSome_iff.1 (Option.isSome_iff_exists.2 ⟨row, hrow⟩) schema hm
    exact ⟨e, hs.mem_entitiesWith_iff.2 ((hs.value?_isSome_iff (ha schema hm)).1 hv), by rw [hrow]; rfl⟩

lemma joinBy_eq_join (hs : s.Valid) (ha : ∀ schema ∈ inputs, s.Agrees schema) (hc : c ∈ inputs.map Schema.id) :
    s.joinBy inputs c = s.join inputs := by
  rw [join]
  cases hd : leastBy? s.componentSize (inputs.map Schema.id) with
  | none =>
    cases inputs with
    | nil => cases hc
    | cons schema inputs => cases hd
  | some driver =>
    apply eq_of_strict hs.joinBy_strict hs.joinBy_strict
    intro entry
    rw [hs.mem_joinBy_iff ha hc, hs.mem_joinBy_iff ha (leastBy?_mem hd)]

end Valid

lemma query_eq_ok (ha : ∀ schema ∈ inputs, s.Agrees schema) : s.query inputs = .ok ⟨s.join inputs⟩ := by
  rw [query, forM_eq_ok_iff.2 fun schema hm => checkSchema_eq_ok_iff.2 (ha schema hm)]
  rfl

lemma agrees_of_query {inputs : List Schema} {q : Query R inputs} (h : s.query inputs = .ok q) :
    (∀ schema ∈ inputs, s.Agrees schema) ∧ q = ⟨s.join inputs⟩ := by
  obtain ⟨hcheck, h⟩ := seq_eq_ok_iff.1 h
  cases h
  exact ⟨fun schema hm => checkSchema_eq_ok_iff.1 (forM_eq_ok_iff.1 hcheck schema hm), rfl⟩

section Join

variable (hs : s.Valid) (hne : inputs ≠ []) (ha : ∀ schema ∈ inputs, s.Agrees schema)

include hs hne ha

lemma Valid.join_eq : ∃ c ∈ inputs.map Schema.id, s.join inputs = s.joinBy inputs c := by
  obtain ⟨schema, hm⟩ := List.exists_mem_of_ne_nil _ hne
  have hc := List.mem_map_of_mem (f := Schema.id) hm
  exact ⟨_, hc, (hs.joinBy_eq_join ha hc).symm⟩

lemma Valid.mem_join_iff {row : Row R inputs} : (e, row) ∈ s.join inputs ↔ Row.Reads s e inputs row := by
  obtain ⟨c, hc, heq⟩ := hs.join_eq hne ha
  rw [heq]
  exact hs.mem_joinBy_iff ha hc

lemma Valid.join_strict : (s.join inputs).Pairwise (·.1.raw < ·.1.raw) := by
  obtain ⟨c, _, heq⟩ := hs.join_eq hne ha
  rw [heq]
  exact hs.joinBy_strict

end Join

lemma Valid.exists_reads_iff (hs : s.Valid) (ha : ∀ schema ∈ inputs, s.Agrees schema) :
    (∃ row, Row.Reads s e inputs row) ↔ ∀ schema ∈ inputs, s.Holds e schema.id := by
  simp only [← row?_eq_some_iff ha, ← Option.isSome_iff_exists, row?_isSome_iff]
  exact forall₂_congr fun schema hm => hs.value?_isSome_iff (ha schema hm)

lemma row?_query_eq_some_iff {rows : List (EntityId × Row R inputs)} (h : rows.Pairwise (·.1.raw < ·.1.raw))
    {row : Row R inputs} : (Query.mk rows).row? e = some row ↔ (e, row) ∈ rows := by
  rw [Query.row?]
  simp only [Option.map_eq_some_iff, searchBy?_eq_some_iff h]
  constructor
  · rintro ⟨⟨f, found⟩, ⟨hm, hraw⟩, rfl⟩
    have hf : f = e := congrArg EntityId.mk hraw
    exact hf ▸ hm
  · exact fun hm => ⟨(e, row), ⟨hm, rfl⟩, rfl⟩

theorem Reachable.query_eq_join (hs : s.Reachable) (hne : inputs ≠ []) (ha : ∀ schema ∈ inputs, s.Agrees schema) :
    ∃ q, s.query inputs = .ok q ∧
      q.entities.Pairwise (·.raw < ·.raw) ∧
      (∀ e, e ∈ q.entities ↔ ∀ schema ∈ inputs, s.Holds e schema.id) ∧
      (∀ entry ∈ q.rows, Row.Reads s entry.1 inputs entry.2) ∧
      (∀ e ∈ q.entities, ∃ row, q.row? e = some row ∧ Row.Reads s e inputs row) ∧
      (∀ e ∉ q.entities, q.row? e = none) ∧
      (∀ schema ∈ inputs, s.joinBy inputs schema.id = q.rows) ∧
      ∀ (t row : Nat) (table : Table R) e, s.tables[t]? = some table → table.entities[row]? = some e →
        ∀ schema ∈ inputs, s.valueFrom? table row e schema = s.value? schema e := by
  have hv := hs.valid
  have hstrict := hv.join_strict hne ha
  have hmem : ∀ {e}, e ∈ (Query.mk (s.join inputs)).entities ↔ ∃ row, Row.Reads s e inputs row := fun {e} => by
    simp [Query.entities, hv.mem_join_iff hne ha]
  have hrow : ∀ {e row}, (Query.mk (s.join inputs)).row? e = some row ↔ Row.Reads s e inputs row :=
    (row?_query_eq_some_iff hstrict).trans (hv.mem_join_iff hne ha)
  refine ⟨⟨s.join inputs⟩, query_eq_ok ha, List.pairwise_map.2 hstrict, fun e => ?_, fun entry hm => ?_,
    fun e he => ?_, fun e he => ?_, fun schema hm => ?_, fun t row table e ht he schema _ => ?_⟩
  · exact hmem.trans (hv.exists_reads_iff ha)
  · exact (hv.mem_join_iff hne ha).1 hm
  · obtain ⟨row, hr⟩ := hmem.1 he
    exact ⟨row, hrow.2 hr, hr⟩
  · exact Option.eq_none_iff_forall_ne_some.2 fun row hr => he (hmem.2 ⟨row, hrow.1 hr⟩)
  · exact hv.joinBy_eq_join ha (List.mem_map_of_mem hm)
  · exact hv.valueFrom?_eq ht he schema

theorem query_eq_join_mass_heat : ∃ (s : Store Nat Tokens) (q : Query Nat [.scalar "mass" .f64, .scalar "heat" .f64]),
    s.Reachable ∧ s.query [.scalar "mass" .f64, .scalar "heat" .f64] = .ok q ∧ q.entities = [⟨1⟩] ∧
      (∃ row, q.row? ⟨1⟩ = some row ∧ Row.Reads s ⟨1⟩ [.scalar "mass" .f64, .scalar "heat" .f64] row) ∧
      q.row? ⟨0⟩ = none := by
  let rock : Bundle Nat := (Bundle.empty "rock").add (.scalar "mass" .f64) #v[5]
  let fire : Bundle Nat := (Bundle.empty "fire").add (.scalar "heat" .f64) #v[8]
  let changes : List (Change Nat Tokens) := [.spawn rock, .spawn rock, .attach ⟨1⟩ fire, .spawn fire]
  let inputs : List Schema := [.scalar "mass" .f64, .scalar "heat" .f64]
  have hs : Reachable (empty.applyAll changes) := ⟨changes, rfl⟩
  have ha : ∀ schema ∈ inputs, (empty.applyAll changes).Agrees schema := by
    simp only [← checkSchema_eq_ok_iff]
    decide +kernel
  have hentities : ((empty.applyAll changes).query inputs).map Query.entities = .ok [⟨1⟩] := by decide +kernel
  obtain ⟨q, hq, _, _, _, hrow, hnone, _⟩ := hs.query_eq_join (List.cons_ne_nil _ _) ha
  rw [hq] at hentities
  have he : q.entities = [⟨1⟩] := Except.ok.inj hentities
  exact ⟨_, q, hs, hq, he, hrow ⟨1⟩ (by simp [he]), hnone ⟨0⟩ (by simp [he])⟩

end Store

end ColumnSim
