import ColumnSim.Proofs.Insert
import ColumnSim.Proofs.Lowest
import ColumnSim.Simulation

namespace ColumnSim

variable {R : Type} {V : AssetKind → Type} {s u v : Store R V} {schema : Schema} {e : EntityId}

namespace Store.Reachable

lemma apply (hs : s.Reachable) (change : Change R V) : (s.apply change).2.Reachable := by
  obtain ⟨changes, rfl⟩ := hs
  exact ⟨changes ++ [change], by rw [applyAll, applyAll, List.foldl_append]; rfl⟩

lemma spawn (hs : s.Reachable) {b : Bundle R} (h : s.spawn b = .ok (e, u)) : u.Reachable := by
  have hu := hs.apply (.spawn b)
  rwa [Store.apply, h] at hu

lemma write (hs : s.Reachable) {es : List EntityId} {vs : List (schema.Value R)} (h : s.write schema es vs = .ok u) :
    u.Reachable := by
  have hu := hs.apply (.write schema es vs)
  rwa [Store.apply, h] at hu

lemma freeze (hs : s.Reachable) : s.freeze.Reachable := hs.apply .freeze

end Store.Reachable

namespace Builder

lemma checkInput_eq_ok_iff (hs : s.Valid) : checkInput s schema = .ok () ↔ s.RegistersAs schema := by
  rw [checkInput, Store.RegistersAs]
  split
  · rename_i hc
    obtain ⟨registered, hr⟩ := Option.isSome_iff_exists.1 ((hs.registered _).2 hc)
    rw [Store.checkSchema_eq_ok_iff, Store.Agrees, hr]
    simp
  · rename_i hc
    have hnone : s.schema? schema.id = none := by
      rw [← Option.not_isSome_iff_eq_none, hs.registered]
      exact hc
    simp [hnone]

inductive Steps (e : EntityId) (s : Store R V) : Option R → Store R V → Prop
  | kept : Steps e s none s
  | set {x : R} {u : Store R V} (h : setTimeStep s e x = .ok u) : Steps e s (some x) u

lemma Steps.reachable {dt : Option R} (h : Steps e s dt u) (hs : s.Reachable) : u.Reachable := by
  cases h with
  | kept => exact hs
  | set h => exact hs.write h

lemma Steps.refills {dt : Option R} (h : Steps e s dt u) (hs : s.Valid) : s.Refills u := by
  cases h with
  | kept => exact .refl hs
  | set h => exact .write hs h

variable [Scalar R] {b : Builder R V} {system : System R V} {dt : Option R} {limit : Option Nat} {logs : Bool}
  {sim : Simulation R V}

/-- The globals entity is the one that is remembered, else the lowest with a tick, else a new one. -/
inductive Ensures (b : Builder R V) (e : EntityId) : Store R V → Prop
  | remembered (h : b.globals = some e) : Ensures b e b.store
  | adopted (h : b.globals = none) (hl : b.store.Lowest Schema.tick.id e) : Ensures b e b.store
  | spawned {u : Store R V} (h : b.globals = none) (hn : ∀ f, ¬b.store.Holds f Schema.tick.id)
    (hu : b.store.spawn Globals.default.bundle = .ok (e, u)) : Ensures b e u

lemma ensures_of_ensureGlobals (hs : b.store.Valid) (h : b.ensureGlobals = .ok (e, u)) : b.Ensures e u := by
  rw [ensureGlobals] at h
  split at h
  · cases h
    exact .remembered ‹_›
  · rename_i hnone
    obtain ⟨q, hq, h⟩ := bind_eq_ok_iff.1 h
    obtain ⟨hagrees, rfl⟩ := Store.agrees_of_query hq
    have ha := List.forall_mem_singleton.1 hagrees
    cases hj : b.store.join [.tick] with
    | nil =>
      rw [hj] at h
      exact .spawned hnone (hs.not_holds_of_join_nil ha hj) h
    | cons entry rows =>
      rw [hj] at h
      obtain ⟨f, v, ⟨⟩⟩ := entry
      cases h
      exact .adopted hnone (hs.lowest_of_join_cons ha hj).1

namespace Ensures

lemma eq_or_spawn (h : b.Ensures e u) : u = b.store ∨ b.store.spawn Globals.default.bundle = .ok (e, u) := by
  cases h with
  | remembered _ => exact .inl rfl
  | adopted _ _ => exact .inl rfl
  | spawned _ _ hu => exact .inr hu

lemma reachable (h : b.Ensures e u) (hs : b.store.Reachable) : u.Reachable := by
  rcases h.eq_or_spawn with rfl | hu
  · exact hs
  · exact hs.spawn hu

lemma valid (h : b.Ensures e u) (hs : b.store.Valid) : u.Valid := by
  rcases h.eq_or_spawn with rfl | hu
  · exact hs
  · exact hs.spawn hu

end Ensures

structure Assembles (b : Builder R V) (system : System R V) (dt : Option R) (limit : Option Nat) (sim : Simulation R V)
    (u v : Store R V) : Prop where
  ensured : b.Ensures sim.globals u
  stepped : Steps sim.globals u dt v
  checked : ∀ schema ∈ (System.pipeline sim.stages).referencedInputs, v.RegistersAs schema
  store : sim.store = v.freeze
  stages : sim.stages = .map incrementTick :: system.stages
  ticks : sim.ticks = 0
  limit : sim.limit = limit

lemma exists_assembles (hs : b.store.Valid) (h : b.assemble system dt limit logs = .ok sim) :
    ∃ u v, b.Assembles system dt limit sim u v := by
  rw [assemble] at h
  obtain ⟨⟨e, u⟩, hglobals, h⟩ := bind_eq_ok_iff.1 h
  have hensures := ensures_of_ensureGlobals hs hglobals
  have hstep : ∃ v : Store R V, Steps e u dt v ∧
      ((System.chain [.map incrementTick, system]).referencedInputs.forM (checkInput v) >>= fun _ =>
        logBuild v.freeze logs >>= fun _ =>
          pure ⟨v.freeze, (System.chain [.map incrementTick, system]).stages, e, 0, limit⟩) = .ok sim := by
    cases dt with
    | none => exact ⟨u, .kept, h⟩
    | some dt =>
      obtain ⟨v, hwrite, h⟩ := bind_eq_ok_iff.1 h
      exact ⟨v, .set hwrite, h⟩
  clear h
  obtain ⟨v, hstepped, h⟩ := hstep
  obtain ⟨hchecked, h⟩ := seq_eq_ok_iff.1 h
  obtain ⟨_, h⟩ := seq_eq_ok_iff.1 h
  cases h
  have hv := (hstepped.refills (hensures.valid hs)).valid
  refine ⟨u, v, hensures, hstepped, fun schema hm => ?_, rfl, ?_, rfl, rfl⟩
  · exact (checkInput_eq_ok_iff hv).1 (forM_eq_ok_iff.1 hchecked schema hm)
  · exact congrArg (System.map incrementTick :: ·) (List.append_nil _)

lemma exists_assembles_of_built (hs : b.store.Valid)
    (h : b.build system logs = .ok sim ∨ ∃ dt limit, b.buildWith system dt limit logs = .ok sim) :
    ∃ dt limit u v, b.Assembles system dt limit sim u v := by
  rcases h with h | ⟨dt, limit, h⟩
  · exact ⟨none, none, exists_assembles hs h⟩
  · exact ⟨some dt.value, limit, exists_assembles hs h⟩

namespace Assembles

variable (h : b.Assembles system dt limit sim u v)

include h

lemma reachable (hs : b.store.Reachable) : v.Reachable := h.stepped.reachable (h.ensured.reachable hs)

lemma sim_reachable (hs : b.store.Reachable) : sim.store.Reachable := h.store ▸ (h.reachable hs).freeze

lemma registers : ∀ schema ∈ (System.pipeline sim.stages).referencedInputs, sim.store.RegistersAs schema :=
  h.store ▸ h.checked

lemma registers_tick : sim.store.RegistersAs .tick := by
  apply h.registers
  rw [h.stages]
  exact List.mem_cons_self ..

end Assembles

end Builder

end ColumnSim
