import ColumnSim.Proofs.Arrival

/-! The plan of a store: its tables with their rows and stamps, and the registry. It says where everything is. -/

namespace ColumnSim

variable {R : Type} {V : AssetKind → Type}

namespace Table

structure Plan where
  name : ArchetypeName
  schemas : List Schema
  entities : Array EntityId
  stamps : Array Nat
deriving DecidableEq

def plan (t : Table R) : Plan := ⟨t.name, t.schemas, t.entities, t.stamps⟩

lemma plan_outline (t : Table R) : t.outline.plan = t.plan := by
  simp [plan, outline, schemas, Column.empty, Function.comp_def]

end Table

namespace Store

variable {s u v : Store R V} {p : Placement} {e f : EntityId} {c : ComponentId}

structure SamePlan (s u : Store R V) : Prop where
  tables : s.tables.map Table.plan = u.tables.map Table.plan
  schema? : ∀ c, s.schema? c = u.schema? c

namespace SamePlan

lemma of_outline (h : u.outline = s.outline) : s.SamePlan u where
  tables := by
    have hplan : ∀ s : Store R V, s.outline.tables.map Table.plan = s.tables.map Table.plan := fun s => by
      simp [outline, Function.comp_def, Table.plan_outline]
    rw [← hplan s, ← hplan u, h]
  schema? c := (schema?_of_outline h c).symm

lemma symm (h : s.SamePlan u) : u.SamePlan s := ⟨h.tables.symm, fun c => (h.schema? c).symm⟩

lemma trans (h : s.SamePlan u) (hv : u.SamePlan v) : s.SamePlan v :=
  ⟨h.tables.trans hv.tables, fun c => (h.schema? c).trans (hv.schema? c)⟩

variable (h : s.SamePlan u)

include h

lemma table_plan (t : Nat) : (s.tables[t]?).map Table.plan = (u.tables[t]?).map Table.plan := by
  rw [← Array.getElem?_map, h.tables, Array.getElem?_map]

lemma entityAt?_eq : s.entityAt? p = u.entityAt? p := by
  have hplan : ∀ s : Store R V, s.entityAt? p = ((s.tables[p.table]?).map Table.plan).bind (·.entities[p.row]?) :=
    fun s => by rw [entityAt?, Option.bind_map]; rfl
  rw [hplan, hplan, h.table_plan]

lemma stampAt?_eq : s.stampAt? p = u.stampAt? p := by
  have hplan : ∀ s : Store R V, s.stampAt? p = ((s.tables[p.table]?).map Table.plan).bind (·.stamps[p.row]?) :=
    fun s => by rw [stampAt?, Option.bind_map]; rfl
  rw [hplan, hplan, h.table_plan]

variable (hs : s.Valid) (hu : u.Valid)

include hs hu

lemma stores_iff : s.stores c p = true ↔ u.stores c p = true := by
  have hplan : ∀ {s : Store R V}, s.Valid → (s.stores c p = true ↔
      ∃ plan, (s.tables[p.table]?).map Table.plan = some plan ∧ c ∈ plan.schemas.map Schema.id) := by
    intro s hs
    simp only [Store.stores_iff, Option.map_eq_some_iff, exists_exists_and_eq_and]
    exact exists_congr fun table => and_congr_right fun ht => (hs.tables ht).hasColumn_iff
  rw [hplan hs, hplan hu, h.table_plan]

lemma locate?_eq : s.locate? e c = u.locate? e c := by
  apply Option.ext
  intro p
  rw [hs.locate?_eq_some_iff, hu.locate?_eq_some_iff, h.entityAt?_eq, h.stores_iff hs hu]

lemma stamp?_eq : s.stamp? e c = u.stamp? e c := by
  change (s.locate? e c).bind s.stampAt? = (u.locate? e c).bind u.stampAt?
  rw [h.locate?_eq hs hu, funext fun p => h.stampAt?_eq (p := p)]

end SamePlan

def Housed (s : Store R V) : Prop := ∀ e, s.entities.contains e = true → ∃ p, s.entityAt? p = some e

lemma empty_housed : (empty : Store R V).Housed := fun e h => by simp [empty, Allocator.contains, Allocator.empty] at h

lemma Valid.exists_entityAt?_insert (hs : s.Valid) {b : Bundle R} (hb : s.Accepts b) :
    (∃ p, (s.insert e b).entityAt? p = some f) ↔ f = e ∨ ∃ p, s.entityAt? p = some f := by
  obtain ⟨t, w, table, htw, hp⟩ := hs.tableFor hb
  rw [Store.insert, htw]
  simp only [entityAt?_pushRow hp.found, hp.entityAt?]
  constructor
  · rintro ⟨p, hpe⟩
    split at hpe
    · exact .inl (Option.some.inj hpe).symm
    · exact .inr ⟨p, hpe⟩
  · rintro (rfl | ⟨p, hpe⟩)
    · exact ⟨⟨t, table.size⟩, if_pos rfl⟩
    · refine ⟨p, (if_neg fun hnew => ?_).trans hpe⟩
      rw [hnew, ← hp.entityAt?, entityAt?_end hp.found (Nat.le_refl _)] at hpe
      cases hpe

lemma Step.housed {event : Event R V} (h : Step s event u) (hs : s.Valid) (hh : s.Housed) : u.Housed := by
  cases h with
  | spawned h =>
    obtain ⟨hb, rfl, rfl⟩ := spawn_eq_ok_iff.1 h
    intro f hf
    rw [entities_insert] at hf
    rw [hs.allocate.exists_entityAt?_insert hb.allocate]
    exact (Allocator.contains_allocate.1 hf).symm.imp_right (hh f)
  | attached h =>
    obtain ⟨ht, rfl⟩ := attach_eq_ok_iff.1 h
    intro f hf
    rw [entities_insert] at hf
    exact (hs.exists_entityAt?_insert ht.accepts).2 (.inr (hh f hf))
  | written h =>
    intro f hf
    have hout := outline_write h
    obtain ⟨p, hp⟩ := hh f (by obtain ⟨_, rfl⟩ := eq_of_outline hout; exact hf)
    exact ⟨p, (SamePlan.of_outline hout).entityAt?_eq ▸ hp⟩
  | named => exact hh
  | added => exact hh
  | frozen => exact hh

lemma Run.housed {events : List (Event R V)} (h : Run s events u) (hs : s.Valid) (hh : s.Housed) : u.Housed := by
  induction h with
  | nil => exact hh
  | cons h _ ih => exact ih (h.valid hs) (h.housed hs hh)

lemma Reachable.housed (hs : s.Reachable) : s.Housed := by
  obtain ⟨changes, rfl⟩ := hs
  exact (applyAll_run empty changes).housed empty_valid empty_housed

lemma SamePlan.contains_eq (h : s.SamePlan u) (hs : s.Reachable) (hu : u.Reachable) (e : EntityId) :
    s.entities.contains e = u.entities.contains e := by
  have hrow : ∀ {s : Store R V}, s.Reachable → (s.entities.contains e = true ↔ ∃ p, s.entityAt? p = some e) :=
    fun hs => ⟨hs.housed e, fun ⟨_, hp⟩ => hs.valid.spawned hp⟩
  rw [Bool.eq_iff_iff, hrow hs, hrow hu]
  simp only [h.entityAt?_eq]

end Store

end ColumnSim
