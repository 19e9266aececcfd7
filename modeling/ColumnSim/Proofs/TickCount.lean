import ColumnSim.Proofs.Sparing
import ColumnSim.Proofs.TimeStep

/-! The tick that the globals hold beside the number of completed runs. A run that fails in a stage advances only the
first. -/

namespace ColumnSim

variable {R : Type} {V : AssetKind → Type} {s : Store R V} {e : EntityId} {c : Client} {stages : List (System R V)}

lemma System.tick_runStages (hs : s.Reachable) (hstages : ∀ stage ∈ stages, stage.Spares .tick) {n : Nat}
    (hn : s.get .tick e = .ok (some (Schema.pack (UInt64.ofNat n)))) (c : Client) :
    s.LeadsTo (runStages c (.map incrementTick :: stages) s).2 ∧
      (runStages c (.map incrementTick :: stages) s).2.get .tick e =
        .ok (some (Schema.pack (UInt64.ofNat (n + 1)))) := by
  obtain ⟨t, ht, _, hcount, _⟩ := hs.valid.run_incrementTick (Store.agrees_of_get hn) c
  have hlead : s.LeadsTo t := by
    have hrun := Leaf.Plain.leadsTo (l := .map incrementTick) trivial hs.valid c
    rwa [Leaf.system, ht] at hrun
  have hspared := spared_inOrder hstages (hlead.reachable hs) c
  rw [runStages, ht, Outcome.andThen, runStages_eq_inOrder, UInt64.ofNat_add]
  exact ⟨hlead.trans hspared.leadsTo, hspared.get_of_get (hlead.reachable hs).valid (hcount e _ hn)⟩

namespace Simulation

variable {sim : Simulation R V} {lost : Nat}

def failures (sim : Simulation R V) : List Client → Nat
  | [] => 0
  | c :: clients => (if sim.finished || (sim.run c).1.isOk then 0 else 1) + (sim.run c).2.failures clients

structure Counts (stages : List (System R V)) (e : EntityId) (sim : Simulation R V) (lost : Nat) : Prop where
  stages : sim.stages = .map incrementTick :: stages
  globals : sim.globals = e
  reachable : sim.store.Reachable
  tick : sim.store.get .tick e = .ok (some (Schema.pack (UInt64.ofNat (sim.ticks + lost))))

lemma Counts.run (h : Counts stages e sim lost) (hstages : ∀ stage ∈ stages, stage.Spares .tick) (c : Client) :
    Counts stages e (sim.run c).2 (lost + if sim.finished || (sim.run c).1.isOk then 0 else 1) := by
  cases hf : sim.finished with
  | true =>
    obtain ⟨limit, hlimit, hle⟩ := finished_iff.1 hf
    rw [run_refused hlimit hle]
    exact h
  | false =>
    obtain ⟨hlead, htick⟩ := System.tick_runStages h.reachable hstages h.tick c
    rw [← h.stages] at hlead htick
    rcases hrun : sim.run c with ⟨error | _, later⟩
    · rcases run_eq_error hrun with ⟨limit, hlimit, hle, _, rfl⟩ | ⟨store, hstore, rfl⟩
      · exact absurd (finished_iff.2 ⟨limit, hlimit, hle⟩) (by simp [hf])
      · rw [hstore] at hlead htick
        exact ⟨h.stages, h.globals, hlead.reachable h.reachable, htick⟩
    · obtain ⟨store, hstore, rfl⟩ := run_eq_ok hrun
      rw [hstore] at hlead htick
      refine ⟨h.stages, h.globals, hlead.reachable h.reachable, htick.trans ?_⟩
      rw [Nat.add_right_comm]
      rfl

lemma Counts.after (h : Counts stages e sim lost) (hstages : ∀ stage ∈ stages, stage.Spares .tick)
    (clients : List Client) : Counts stages e (sim.after clients) (lost + sim.failures clients) := by
  induction clients generalizing sim lost with
  | nil => exact h
  | cons c clients ih =>
    rw [failures, ← Nat.add_assoc]
    exact ih (h.run hstages c)

end Simulation

namespace Builder

variable [Scalar R] {b : Builder R V} {system : System R V} {sim later : Simulation R V} {logs : Bool}

/-- The tick is ahead of the completed runs by those that failed in a stage, and the stages of the next run see it one
further. Until it wraps it agrees with the completed runs exactly if none has failed in a stage. -/
theorem tick_of_built (hs : b.store.Reachable)
    (h : b.build system logs = .ok sim ∨ ∃ dt limit, b.buildWith system dt limit logs = .ok sim)
    (hstages : ∀ stage ∈ system.stages, stage.Spares .tick)
    (hzero : sim.store.get .tick sim.globals = .ok (some (Schema.pack 0))) {clients : List Client}
    (hlater : sim.after clients = later) :
    later.globals = sim.globals ∧
    later.store.get .tick sim.globals =
      .ok (some (Schema.pack (UInt64.ofNat (later.ticks + sim.failures clients)))) ∧
    (∀ c front back s, later.stages = .map incrementTick :: (front ++ back) →
      System.runStages c (.map incrementTick :: front) later.store = (.ok (), s) →
      s.get .tick sim.globals = .ok (some (Schema.pack (UInt64.ofNat (later.ticks + sim.failures clients + 1))))) ∧
    (later.ticks + sim.failures clients < UInt64.size →
      (later.store.get .tick sim.globals = .ok (some (Schema.pack (UInt64.ofNat later.ticks))) ↔
        sim.failures clients = 0)) := by
  obtain ⟨_, _, _, _, ha⟩ := exists_assembles_of_built hs.valid h
  have hstart : Simulation.Counts system.stages sim.globals sim 0 :=
    ⟨ha.stages, rfl, ha.sim_reachable hs, by rw [ha.ticks]; exact hzero⟩
  have hcounts := hstart.after hstages clients
  rw [hlater, Nat.zero_add] at hcounts
  refine ⟨hcounts.globals, hcounts.tick, fun c front back s hsplit hrun => ?_, fun hlt => ?_⟩
  · rw [hcounts.stages] at hsplit
    obtain ⟨_, hsystem⟩ := List.cons_eq_cons.1 hsplit
    have hfront : ∀ stage ∈ front, stage.Spares .tick := fun stage hm =>
      hstages stage (hsystem ▸ List.mem_append_left _ hm)
    have htick := (System.tick_runStages hcounts.reachable hfront hcounts.tick c).2
    rwa [hrun] at htick
  · rw [hcounts.tick]
    constructor
    · intro heq
      have hword := congrArg Schema.unpack (Option.some.inj (Except.ok.inj heq))
      have hnat : later.ticks + sim.failures clients = later.ticks := calc
        later.ticks + sim.failures clients = (UInt64.ofNat (later.ticks + sim.failures clients)).toNat :=
          (UInt64.toNat_ofNat_of_lt' hlt).symm
        _ = (UInt64.ofNat later.ticks).toNat := congrArg UInt64.toNat hword
        _ = later.ticks := UInt64.toNat_ofNat_of_lt' (Nat.lt_of_add_right_lt hlt)
      exact Nat.left_eq_add.1 hnat.symm
    · intro hnone
      rw [hnone]
      rfl

theorem tick_of_built_stumble : ∃ (b : Builder Float Tokens) (dt : TimeStep Float) (system : System Float Tokens)
    (sim later : Simulation Float Tokens) (clients : List Client), b.store.Reachable ∧
    b.buildWith system dt (some 2) true = .ok sim ∧ (∀ stage ∈ system.stages, stage.Spares .tick) ∧
    sim.store.get .tick sim.globals = .ok (some (Schema.pack 0)) ∧ sim.after clients = later ∧
    sim.failures clients = 1 ∧ later.ticks = 2 ∧ later.finished = true ∧
    later.store.get .tick sim.globals = .ok (some (Schema.pack 3)) := by
  let dt : TimeStep Float := ⟨0.125, by decide +kernel, by decide +kernel⟩
  let stumble : System Float Tokens := .procedure ⟨"stumble", [.tick], [], fun _ s =>
    if s.get .tick ⟨0⟩ = .ok (some (Schema.pack 1)) then (.error (.neverSpawned ⟨9⟩), s) else (.ok (), s)⟩
  let clients : List Client := [.default, .default, .default, .default]
  have hstages : ∀ stage ∈ stumble.stages, stage.Spares .tick := by
    refine List.forall_mem_singleton.2 fun c s _ => ?_
    have hkept : (System.run c stumble s).2 = s := by
      simp only [stumble, System.run]
      split <;> rfl
    rw [hkept]
    exact .refl
  have hbuild : (empty.buildWith stumble dt (some 2) true).map (fun sim =>
      (sim.store.get .tick sim.globals, sim.failures clients, (sim.after clients).ticks,
        (sim.after clients).finished)) =
      .ok (.ok (some (Schema.pack 0)), 1, 2, true) := by decide +kernel
  obtain ⟨sim, h, hsim⟩ := map_eq_ok_iff.1 hbuild
  obtain ⟨hzero, hsim⟩ := Prod.mk.inj hsim
  obtain ⟨hfailures, hsim⟩ := Prod.mk.inj hsim
  obtain ⟨hticks, hfinished⟩ := Prod.mk.inj hsim
  have hs : (empty : Builder Float Tokens).store.Reachable := ⟨[], rfl⟩
  obtain ⟨_, htick, _⟩ := tick_of_built hs (.inr ⟨dt, some 2, h⟩) hstages hzero (Eq.refl (sim.after clients))
  rw [hticks, hfailures] at htick
  exact ⟨empty, dt, stumble, sim, _, clients, hs, h, hstages, hzero, rfl, hfailures, hticks, hfinished, htick⟩

theorem tick_of_built_cold : ∃ (b : Builder Float Tokens) (system : System Float Tokens)
    (sim : Simulation Float Tokens), b.store.Reachable ∧ b.build system false = .ok sim ∧
    (∀ stage ∈ system.stages, stage.Spares .tick) ∧ (∀ e, sim.store.Holds e Schema.tick.id ↔ e = sim.globals) ∧
    sim.store.get .tick sim.globals = .ok (some (Schema.pack 0)) ∧
    (sim.run .default).1 = .error (.missingOutput ⟨0⟩ "cold") ∧ (sim.run .default).2.ticks = 0 ∧
    (sim.run .default).2.store.get .tick sim.globals = .ok (some (Schema.pack 1)) := by
  let heat : Schema := .scalar "heat" .f64
  let rock : Bundle Float := (Bundle.empty "rock").add heat #v[1]
  let changes : List (Change Float Tokens) := [.spawn rock]
  let b : Builder Float Tokens := ⟨Store.empty.applyAll changes, none⟩
  let cool : MapSystem Float := ⟨"cool", [heat], .scalar "cold" .f64, fun (v, _) => v⟩
  have hs : b.store.Reachable := ⟨changes, rfl⟩
  have hstages : ∀ stage ∈ (System.map cool : System Float Tokens).stages, stage.Spares .tick :=
    List.forall_mem_singleton.2 (cool.spares (by decide +kernel))
  have hbuild : (b.build (.map cool) false).map (fun sim =>
      (sim.globals, sim.store.entitiesWith Schema.tick.id, sim.store.get .tick sim.globals)) =
      .ok (⟨1⟩, [⟨1⟩], .ok (some (Schema.pack 0))) := by decide +kernel
  have hrun : (b.build (.map cool) false).map (fun sim =>
      ((sim.run .default).1, (sim.run .default).2.ticks, (sim.run .default).2.store.get .tick sim.globals)) =
      .ok (.error (.missingOutput ⟨0⟩ "cold"), 0, .ok (some (Schema.pack 1))) := by decide +kernel
  obtain ⟨sim, h, hsim⟩ := map_eq_ok_iff.1 hbuild
  rw [h] at hrun
  obtain ⟨hglobals, hsim⟩ := Prod.mk.inj hsim
  obtain ⟨hholders, hzero⟩ := Prod.mk.inj hsim
  obtain ⟨herror, hrun⟩ := Prod.mk.inj (Except.ok.inj hrun)
  obtain ⟨hticks, htick⟩ := Prod.mk.inj hrun
  obtain ⟨_, _, _, _, ha⟩ := exists_assembles_of_built hs.valid (.inl h)
  have hone : ∀ e, sim.store.Holds e Schema.tick.id ↔ e = sim.globals := fun e => by
    rw [← (ha.sim_reachable hs).valid.mem_entitiesWith_iff, hholders, hglobals, List.mem_singleton]
  exact ⟨b, _, sim, hs, h, hstages, hone, hzero, herror, hticks, htick⟩

end Builder

end ColumnSim
