import ColumnSim.Proofs.Globals
import ColumnSim.Proofs.Leaves
import ColumnSim.Proofs.Map

namespace ColumnSim

variable {R : Type} {V : AssetKind → Type} {s u v : Store R V} {e f : EntityId} {x : R}

lemma Store.Valid.run_incrementTick (hs : s.Valid) (ha : s.Agrees .tick) (c : Client) : ∃ u,
    System.run c (.map incrementTick) s = (.ok (), u) ∧ s.Refills u ∧
      (∀ e n, s.get .tick e = .ok (some (Schema.pack n)) → u.get .tick e = .ok (some (Schema.pack (n + 1)))) ∧
      ∀ e schema, schema.id ≠ Schema.tick.id → u.get schema e = s.get schema e := by
  have hinputs : ∀ schema ∈ (incrementTick (R := R)).inputs, s.Agrees schema := List.forall_mem_singleton.2 ha
  obtain ⟨u, hu, hset, hframe, hrefills⟩ := hs.exists_run_map (List.cons_ne_nil _ _) hinputs c ha fun e row hrow =>
    (hs.exists_reads_iff hinputs).1 ⟨row, hrow⟩ _ (List.mem_singleton.2 rfl)
  refine ⟨u, hu, hrefills, fun e n hn => ?_, fun e schema hid => hframe e schema fun _ _ => hid⟩
  exact hset e (Schema.pack n, ()) ⟨hn, trivial⟩

namespace Builder

lemma get_of_setTimeStep (hs : s.Valid) (h : setTimeStep s e x = .ok u) :
    u.get .timeStep e = .ok (some (Schema.pack x)) ∧ ∀ f ≠ e, u.get .timeStep f = s.get .timeStep f := by
  have hentries : ([(e, Schema.pack x)] : List (EntityId × Schema.timeStep.Value R)).Pairwise (·.1.raw < ·.1.raw) :=
    List.pairwise_singleton _ _
  obtain ⟨hset, hframe⟩ := hs.write_entries hentries h
  refine ⟨hset e _ (List.mem_singleton.2 rfl), fun f hf => hframe f _ fun v hm => ?_⟩
  cases List.mem_singleton.1 hm
  exact (hf rfl).elim

variable [Scalar R] {b : Builder R V} {system : System R V} {dt : TimeStep R} {limit : Option Nat} {logs : Bool}
  {sim : Simulation R V}

namespace Ensures

variable (h : b.Ensures e u) (hs : b.store.Valid)

include h

lemma agrees (ha : u.Agrees .timeStep) : b.store.Agrees .timeStep := by
  rcases h.eq_or_spawn with rfl | hu
  · exact ha
  · obtain ⟨haccepts, _⟩ := Store.spawn_eq_ok_iff.1 hu
    exact haccepts.agrees ⟨.timeStep, Schema.pack Globals.default.timeStep⟩
      (by simp [Globals.bundle, Bundle.add, Bundle.push])

include hs

lemma cell?_eq (hf : f ≠ e) (c : ComponentId) : u.cell? f c = b.store.cell? f c := by
  rcases h.eq_or_spawn with rfl | hu
  · rfl
  · rw [hs.cell?_spawn hu, if_neg hf, Option.or_none]

lemma holds {c : ComponentId} (hf : b.store.Holds f c) : u.Holds f c := by
  rcases h.eq_or_spawn with rfl | hu
  · exact hf
  · exact ((Store.Step.spawned hu).holds_iff hs).2 (.inr hf)

lemma lowest {c : ComponentId} (hl : u.Lowest c f) (hf : f ≠ e) : b.store.Lowest c f := by
  refine ⟨?_, fun g hg => hl.le g (h.holds hs hg)⟩
  rw [← hs.cell?_isSome_iff, ← h.cell?_eq hs hf, (h.valid hs).cell?_isSome_iff]
  exact hl.holds

lemma timeStep_eq (hw : setTimeStep u e x = .ok v) : ∃ l, v.Lowest Schema.timeStep.id l ∧
    v.timeStep = if l = e then .ok x else b.store.timeStep := by
  have hu := h.valid hs
  obtain ⟨hset, hframe⟩ := get_of_setTimeStep hu hw
  have hrefills : u.Refills v := .write hu hw
  have hv := hrefills.valid
  have hau : u.Agrees .timeStep := (Store.write_eq_ok_iff.1 hw).2.1
  have hav := hrefills.agrees_iff.2 hau
  have hab := h.agrees hau
  obtain ⟨l, hl⟩ := hv.exists_lowest hav ((hv.exists_get_iff hav).1 ⟨_, hset⟩)
  refine ⟨l, hl, ?_⟩
  by_cases hle : l = e
  · rw [if_pos hle]
    exact hv.timeStep_eq hav hl (hle ▸ hset)
  · -- The lowest holder was there before the build, which has not touched it.
    rw [if_neg hle]
    refine hs.timeStep_congr hab (h.lowest hs ((hrefills.lowest_iff hu).1 hl) hle) hv hav hl ?_
    rw [hframe l hle, Store.get_eq_ok hau, Store.get_eq_ok hab, Store.value?_eq_cell?, Store.value?_eq_cell?,
      h.cell?_eq hs hle]

end Ensures

/-- The globals entity gets the time step of the build. The step that is read is this one if no entity with a lower id
holds one; otherwise it is the one that was read before the build. The count of ticks does not change it. -/
theorem timeStep_of_buildWith (hs : b.store.Reachable) (h : b.buildWith system dt limit logs = .ok sim) :
    sim.store.get .timeStep sim.globals = .ok (some (Schema.pack dt.value)) ∧
    (∃ e, sim.store.Lowest Schema.timeStep.id e ∧
      sim.store.timeStep = if e = sim.globals then .ok dt.value else b.store.timeStep) ∧
    sim.stages = .map incrementTick :: system.stages ∧
    ∀ c, ∃ s, System.run c (.map incrementTick) sim.store = (.ok (), s) ∧ s.timeStep = sim.store.timeStep := by
  obtain ⟨u, v, ha⟩ := exists_assembles hs.valid h
  have hu := ha.ensured.valid hs.valid
  have hw : setTimeStep u sim.globals dt.value = .ok v := by
    cases ha.stepped
    assumption
  obtain ⟨hset, _⟩ := get_of_setTimeStep hu hw
  obtain ⟨e, hl, hread⟩ := ha.ensured.timeStep_eq hs.valid hw
  have hav : v.Agrees .timeStep := (Store.Refills.write hu hw).agrees_iff.2 (Store.write_eq_ok_iff.1 hw).2.1
  have hv := (ha.sim_reachable hs).valid
  have htick := ha.registers_tick.agrees
  rw [ha.store] at hv htick ⊢
  have hfrozen : v.freeze.Lowest Schema.timeStep.id e := ⟨hl.holds, hl.le⟩
  refine ⟨hset, ⟨e, hfrozen, hread⟩, ha.stages, fun c => ?_⟩
  obtain ⟨s, hrun, hs, _, hkept⟩ := hv.run_incrementTick htick c
  have hlowest := (hs.lowest_iff hv).2 hfrozen
  exact ⟨s, hrun, hv.timeStep_congr hav hfrozen hs.valid (hs.agrees_iff.2 hav) hlowest (hkept e _ (by decide +kernel))⟩

theorem timeStep_of_buildWith_eighth : ∃ (b : Builder Float Tokens) (dt : TimeStep Float)
    (sim : Simulation Float Tokens), b.store.Reachable ∧ dt.value = 0.125 ∧
      b.buildWith (.pipeline []) dt none false = .ok sim ∧ sim.globals = ⟨1⟩ ∧ sim.store.timeStep = .ok 0.125 := by
  let rock : Bundle Float := (Bundle.empty "rock").add (.scalar "heat" .f64) #v[1]
  let changes : List (Change Float Tokens) := [.spawn rock]
  let b : Builder Float Tokens := ⟨Store.empty.applyAll changes, none⟩
  let dt : TimeStep Float := ⟨0.125, by decide +kernel, by decide +kernel⟩
  have hs : b.store.Reachable := ⟨changes, rfl⟩
  have hbuild : (b.buildWith (.pipeline []) dt none false).map
      (fun sim => (sim.globals, sim.store.entitiesWith Schema.timeStep.id)) = .ok (⟨1⟩, [⟨1⟩]) := by decide +kernel
  obtain ⟨sim, h, hsim⟩ := map_eq_ok_iff.1 hbuild
  obtain ⟨hglobals, hentities⟩ := Prod.mk.inj hsim
  obtain ⟨_, ⟨e, hl, hread⟩, _⟩ := timeStep_of_buildWith hs h
  obtain ⟨_, _, ha⟩ := exists_assembles hs.valid h
  have he := (ha.sim_reachable hs).valid.mem_entitiesWith_iff.2 hl.holds
  rw [hentities] at he
  rw [if_pos ((List.mem_singleton.1 he).trans hglobals.symm)] at hread
  exact ⟨b, dt, sim, hs, rfl, h, hglobals, hread⟩

theorem timeStep_of_buildWith_clock : ∃ (dt : TimeStep Float) (sim : Simulation Float Tokens), dt.value = 0.125 ∧
    ((empty : Builder Float Tokens).performAll
      [.alter (.spawn ((Bundle.empty "clock").add .timeStep #v[0.25]))]).buildWith (.pipeline []) dt none false =
      .ok sim ∧ sim.store.timeStep = .ok 0.25 := by
  -- The clock has a lower id than the globals, which are spawned by the build.
  let calls : List (Call Float Tokens) := [.alter (.spawn ((Bundle.empty "clock").add .timeStep #v[0.25]))]
  let dt : TimeStep Float := ⟨0.125, by decide +kernel, by decide +kernel⟩
  have hstep : ((empty.performAll calls).buildWith (.pipeline []) dt none false).map (·.store.timeStep) =
      .ok (.ok 0.25) := by decide +kernel
  obtain ⟨sim, h, hread⟩ := map_eq_ok_iff.1 hstep
  exact ⟨dt, sim, rfl, h, hread⟩

end Builder

end ColumnSim
