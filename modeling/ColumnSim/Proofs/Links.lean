import ColumnSim.Graph
import ColumnSim.Proofs.Arrival
import ColumnSim.Proofs.Match

namespace ColumnSim

variable {R : Type} {V : AssetKind → Type} {s : Store R V} {rel : Relation R} {e : EntityId} {es : List EntityId}

namespace Relation

def link? (rel : Relation R) (s : Store R V) (e : EntityId) : Option (EntityId × EntityId) :=
  (s.value? rel.schema e).map fun v => (rel.source v, rel.target v)

def links (rel : Relation R) (s : Store R V) (es : List EntityId) : List (EntityId × EntityId) :=
  es.filterMap (rel.link? s)

def stamped? (rel : Relation R) (s : Store R V) (e : EntityId) : Option (Nat × EntityId × EntityId) :=
  (s.stamp? e rel.schema.id).bind fun n => (rel.link? s e).map (n, ·)

lemma stamped?_eq_some_iff {n : Nat} {link : EntityId × EntityId} :
    rel.stamped? s e = some (n, link) ↔ s.stamp? e rel.schema.id = some n ∧ rel.link? s e = some link := by
  simp only [stamped?, Option.bind_eq_some_iff, Option.map_eq_some_iff, Prod.mk.injEq]
  constructor
  · rintro ⟨_, hn, _, hl, rfl, rfl⟩
    exact ⟨hn, hl⟩
  · rintro ⟨hn, hl⟩
    exact ⟨n, hn, link, hl, rfl, rfl⟩

end Relation

namespace Store

lemma Arrived.stamp? {c : ComponentId} (h : Arrived s c es) (hs : s.Valid) (he : e ∈ es) :
    ∃ n, s.stamp? e c = some n :=
  Option.isSome_iff_exists.1 (hs.stamp?_isSome_iff.2 ((h.mem e).1 he))

lemma Arrived.nodup {c : ComponentId} (h : Arrived s c es) (hs : s.Valid) : es.Nodup := by
  refine h.ascending.imp_of_mem fun {e f} he _ hlt heq => ?_
  obtain ⟨n, hn⟩ := h.stamp? hs he
  exact Nat.lt_irrefl n (hlt n n hn (heq ▸ hn))

lemma matched?_singleton {schema : Schema} {v : schema.Value R} :
    s.matched? [schema] e = some (v, ()) ↔ s.value? schema e = some v := by
  rw [matched?, row?, Row.read?, Row.read?]
  cases s.value? schema e <;> simp

variable (hs : s.Valid) (ha : s.Agrees rel.schema) (hes : Arrived s rel.schema.id es)

include hs ha

lemma Valid.join_relation {e : EntityId} {v : rel.schema.Value R} :
    (e, v, ()) ∈ s.join [rel.schema] ↔ s.value? rel.schema e = some v := by
  rw [hs.mem_join_iff_matched? (List.forall_mem_singleton.2 ha), matched?_singleton]

include hes

lemma Arrived.perm_join : ((s.join [rel.schema]).map (·.1)).Perm es := by
  have hasc := hs.join_ascending (List.forall_mem_singleton.2 ha)
  have hnodup : ((s.join [rel.schema]).map (·.1)).Nodup := nodup_map_of_strict hasc fun _ _ => congrArg EntityId.raw
  refine (List.perm_ext_iff_of_nodup hnodup (hes.nodup hs)).2 fun e => ?_
  rw [hes.mem, ← hs.value?_isSome_iff ha, Option.isSome_iff_exists, List.mem_map]
  constructor
  · rintro ⟨⟨e, v, _⟩, hm, rfl⟩
    exact ⟨v, (hs.join_relation ha).1 hm⟩
  · rintro ⟨v, hv⟩
    exact ⟨(e, v, ()), (hs.join_relation ha).2 hv, rfl⟩

lemma Arrived.sortBy_stamped :
    sortBy (·.1) (((s.join [rel.schema]).map (·.1)).filterMap (rel.stamped? s)) = es.filterMap (rel.stamped? s) := by
  apply sortBy_eq_of_perm ((hes.perm_join hs ha).filterMap _)
  rw [List.pairwise_filterMap]
  refine hes.ascending.imp fun {e f} hlt => ?_
  rintro ⟨m, _⟩ hm ⟨n, _⟩ hn
  exact hlt m n (Relation.stamped?_eq_some_iff.1 hm).1 (Relation.stamped?_eq_some_iff.1 hn).1

lemma Arrived.graph_eq : s.graph rel = .ok ⟨rel.links s es⟩ := by
  have hcollect : ((s.join [rel.schema]).filterMap fun entry => (s.stamp? entry.1 rel.schema.id).map
        fun stamp => (stamp, rel.source entry.2.1, rel.target entry.2.1)) =
      ((s.join [rel.schema]).map (·.1)).filterMap (rel.stamped? s) := by
    rw [List.filterMap_map]
    refine List.filterMap_congr fun entry hm => ?_
    obtain ⟨e, v, _⟩ := entry
    simp only [Function.comp_apply, Relation.stamped?, Relation.link?, (hs.join_relation ha).1 hm]
    cases s.stamp? e rel.schema.id <;> rfl
  have hlinks : (es.filterMap (rel.stamped? s)).map (·.2) = rel.links s es := by
    rw [List.map_filterMap, Relation.links]
    refine List.filterMap_congr fun e he => ?_
    obtain ⟨n, hn⟩ := hes.stamp? hs he
    rw [Relation.stamped?, hn, Option.bind_some, Option.map_map]
    exact Option.map_id'
  rw [graph, query_eq_ok (List.forall_mem_singleton.2 ha), ← hlinks, ← hes.sortBy_stamped hs ha, ← hcollect]
  rfl

end Store

lemma Store.graph_congr {u : Store R V} (hquery : s.query [rel.schema] = u.query [rel.schema])
    (hstamp : ∀ e, s.stamp? e rel.schema.id = u.stamp? e rel.schema.id) : s.graph rel = u.graph rel := by
  simp only [graph, hquery, hstamp]

namespace Graph

variable {g : Graph} {es : List EntityId}

lemma mem_insertSource {f : EntityId} : e ∈ insertSource f es ↔ e = f ∨ e ∈ es := by
  induction es with
  | nil => simp [insertSource]
  | cons h hs ih =>
    rw [insertSource]
    split
    · exact List.mem_cons
    · split
      · rename_i hfh
        simp [hfh]
      · rw [List.mem_cons, ih, List.mem_cons, or_left_comm]

lemma insertSource_ascending (f : EntityId) (h : es.Pairwise (·.raw < ·.raw)) :
    (insertSource f es).Pairwise (·.raw < ·.raw) := by
  induction es with
  | nil => exact List.pairwise_singleton _ f
  | cons x xs ih =>
    obtain ⟨hx, hxs⟩ := List.pairwise_cons.1 h
    rw [insertSource]
    split
    · rename_i hlt
      refine List.pairwise_cons.2 ⟨fun y hy => ?_, h⟩
      rcases List.mem_cons.1 hy with rfl | hy
      · exact hlt
      · exact Nat.lt_trans hlt (hx y hy)
    · split
      · exact h
      · rename_i hlt hne
        have hraw : f.raw ≠ x.raw := fun heq => hne (congrArg EntityId.mk heq)
        refine List.pairwise_cons.2 ⟨fun y hy => ?_, ih hxs⟩
        rcases mem_insertSource.1 hy with rfl | hy
        · omega
        · exact hx y hy

lemma mem_sources_iff : e ∈ g.sources ↔ ∃ t, (e, t) ∈ g.links := by
  have hfold : ∀ es : List EntityId, e ∈ es.foldr insertSource [] ↔ e ∈ es := by
    intro es
    induction es with
    | nil => rfl
    | cons f fs ih => rw [List.foldr_cons, mem_insertSource, ih, List.mem_cons]
  rw [sources, hfold, List.mem_map]
  constructor
  · rintro ⟨⟨e, t⟩, hm, rfl⟩
    exact ⟨t, hm⟩
  · exact fun ⟨t, hm⟩ => ⟨(e, t), hm, rfl⟩

lemma sources_ascending (g : Graph) : g.sources.Pairwise (·.raw < ·.raw) := by
  rw [sources]
  induction g.links.map (·.1) with
  | nil => exact .nil
  | cons f fs ih => exact insertSource_ascending f ih

end Graph

end ColumnSim
