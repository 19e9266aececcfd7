import ColumnSim.Proofs.Arrival
import ColumnSim.Proofs.Assembly

/-! Globals entities: the one that a build finds or spawns, and all others that hold a tick. -/

namespace ColumnSim

variable {R : Type} {V : AssetKind → Type} {e f : EntityId} {c : ComponentId}

def Bundle.Whole (b : Bundle R) : Prop :=
  Schema.tick.id ∈ b.schemas.map Schema.id →
    Schema.seed.id ∈ b.schemas.map Schema.id ∧ Schema.timeStep.id ∈ b.schemas.map Schema.id

lemma Globals.schemas_bundle (g : Globals R) : g.bundle.schemas = [.seed, .tick, .timeStep] := rfl

lemma Globals.bundle_whole (g : Globals R) : g.bundle.Whole := fun _ => by simp [schemas_bundle]

def Change.bundles : Change R V → List (Bundle R)
  | .spawn b => [b]
  | .spawnNamed b _ => [b]
  | .spawnBatch bs => bs
  | .attach _ b => [b]
  | _ => []

namespace Event

def given? : Event R V → Option (EntityId × Bundle R)
  | .spawned e b => some (e, b)
  | .attached e b => some (e, b)
  | _ => none

lemma recipient?_eq_some_iff {event : Event R V} :
    event.recipient? c = some e ↔ ∃ b, event.given? = some (e, b) ∧ c ∈ b.schemas.map Schema.id := by
  cases event with
  | spawned f b => by_cases hc : c ∈ b.schemas.map Schema.id <;> simp [recipient?, given?, hc, -List.mem_map]
  | attached f b => by_cases hc : c ∈ b.schemas.map Schema.id <;> simp [recipient?, given?, hc, -List.mem_map]
  | _ => simp [recipient?, given?]

end Event

namespace Store

variable {s u : Store R V} {b : Bundle R}

lemma mem_of_batchEvents {event : Event R V} {bs : List (Bundle R)} (h : event ∈ s.batchEvents bs)
    (hb : event.given? = some (e, b)) : b ∈ bs := by
  induction bs generalizing s with
  | nil => cases h
  | cons a bs ih =>
    rw [batchEvents] at h
    split at h
    · cases h
    · rcases List.mem_cons.1 h with rfl | h
      · cases hb
        exact List.mem_cons_self ..
      · exact List.mem_cons_of_mem _ (ih h)

lemma mem_bundles_of_mem_events {event : Event R V} {change : Change R V} (h : event ∈ s.events change)
    (hb : event.given? = some (e, b)) : b ∈ change.bundles := by
  cases change with
  | spawnBatch bs => exact mem_of_batchEvents h hb
  | _ => grind [events, Event.given?, Change.bundles]

def Whole (s : Store R V) : Prop :=
  ∀ e, s.Holds e Schema.tick.id → s.Holds e Schema.seed.id ∧ s.Holds e Schema.timeStep.id

lemma empty_whole : (empty : Store R V).Whole := fun e he => by simp [Holds, empty] at he

lemma Step.whole {event : Event R V} (h : Step s event u) (hs : s.Valid) (hw : s.Whole)
    (hb : ∀ e b, event.given? = some (e, b) → b.Whole) : u.Whole := by
  intro e he
  simp only [h.holds_iff hs, Event.recipient?_eq_some_iff] at he ⊢
  rcases he with ⟨b, hgiven, htick⟩ | he
  · obtain ⟨hseed, hstep⟩ := hb e b hgiven htick
    exact ⟨.inl ⟨b, hgiven, hseed⟩, .inl ⟨b, hgiven, hstep⟩⟩
  · exact ⟨.inr (hw e he).1, .inr (hw e he).2⟩

lemma Run.whole {events : List (Event R V)} (h : Run s events u) (hs : s.Valid) (hw : s.Whole)
    (hb : ∀ event ∈ events, ∀ e b, event.given? = some (e, b) → b.Whole) : u.Whole := by
  induction h with
  | nil => exact hw
  | cons h _ ih =>
    obtain ⟨hevent, hevents⟩ := List.forall_mem_cons.1 hb
    exact ih (h.valid hs) (h.whole hs hw hevent) hevents

lemma Run.holds {events : List (Event R V)} (h : Run s events u) (hs : s.Valid) (he : s.Holds e c) : u.Holds e c := by
  induction h with
  | nil => exact he
  | cons h _ ih => exact ih (h.valid hs) ((h.holds_iff hs).2 (.inr he))

end Store

namespace Builder

inductive Call (R : Type) (V : AssetKind → Type)
  | alter (change : Change R V)
  | spawnGlobals (g : Globals R)

def Call.bundles : Call R V → List (Bundle R)
  | .alter change => change.bundles
  | .spawnGlobals g => [g.bundle]

def perform (b : Builder R V) : Call R V → Builder R V
  | .alter change => { b with store := (b.store.apply change).2 }
  | .spawnGlobals g =>
    match b.spawnGlobals g with
    | .ok (_, b) => b
    | .error _ => b

def performAll (b : Builder R V) (calls : List (Call R V)) : Builder R V := calls.foldl perform b

structure Whole (b : Builder R V) : Prop where
  reachable : b.store.Reachable
  whole : b.store.Whole
  remembered : ∀ e, b.globals = some e → b.store.Holds e Schema.tick.id

variable {b : Builder R V}

lemma empty_whole : (empty : Builder R V).Whole := ⟨⟨[], rfl⟩, Store.empty_whole, fun _ h => nomatch h⟩

lemma Whole.perform (hb : b.Whole) {call : Call R V} (hw : ∀ x ∈ call.bundles, x.Whole) : (b.perform call).Whole := by
  have hv := hb.reachable.valid
  cases call with
  | alter change =>
    have hrun := b.store.apply_run change
    refine ⟨hb.reachable.apply change, hrun.whole hv hb.whole fun event hm e x hx => ?_, fun e he => ?_⟩
    · exact hw x (Store.mem_bundles_of_mem_events hm hx)
    · exact hrun.holds hv (hb.remembered e he)
  | spawnGlobals g =>
    rw [Builder.perform, spawnGlobals]
    cases hglobals : b.globals with
    | some e => exact hb
    | none =>
      cases hspawn : b.store.spawn g.bundle with
      | error error => exact hb
      | ok p =>
        obtain ⟨e, u⟩ := p
        have hstep := Store.Step.spawned hspawn
        refine ⟨hb.reachable.spawn hspawn, hstep.whole hv hb.whole fun f x hx => ?_, fun f hf => ?_⟩
        · cases hx
          exact g.bundle_whole
        · cases hf
          refine (hstep.holds_iff hv).2 (.inl (Event.recipient?_eq_some_iff.2 ⟨_, rfl, ?_⟩))
          simp [Globals.schemas_bundle]

lemma Whole.performAll (hb : b.Whole) {calls : List (Call R V)} (hw : ∀ call ∈ calls, ∀ x ∈ call.bundles, x.Whole) :
    (b.performAll calls).Whole := by
  induction calls generalizing b with
  | nil => exact hb
  | cons call calls ih =>
    obtain ⟨hcall, hcalls⟩ := List.forall_mem_cons.1 hw
    exact ih (hb.perform hcall) hcalls

variable [Scalar R] {system : System R V} {sim : Simulation R V} {logs : Bool} {u : Store R V}

lemma Ensures.holds_iff (h : b.Ensures e u) (hb : b.Whole) :
    u.Holds f Schema.tick.id ↔ b.store.Holds f Schema.tick.id ∨ f = e := by
  cases h with
  | remembered he => exact (or_iff_left_of_imp fun h => h ▸ hb.remembered e he).symm
  | adopted _ hl => exact (or_iff_left_of_imp fun h => h ▸ hl.holds).symm
  | spawned _ _ hu =>
    rw [(Store.Step.spawned hu).holds_iff hb.reachable.valid, Event.recipient?_eq_some_iff, or_comm]
    simp [Event.given?, Globals.schemas_bundle, eq_comm]

lemma Ensures.holds_of_holds (h : b.Ensures e u) (hb : b.Whole) (hf : b.store.Holds f Schema.tick.id) :
    b.store.Holds e Schema.tick.id := by
  cases h with
  | remembered he => exact hb.remembered e he
  | adopted _ hl => exact hl.holds
  | spawned _ hn _ => exact (hn f hf).elim

lemma Ensures.whole (h : b.Ensures e u) (hb : b.Whole) : u.Whole := by
  rcases h.eq_or_spawn with rfl | hu
  · exact hb.whole
  · refine (Store.Step.spawned hu).whole hb.reachable.valid hb.whole fun f x hx => ?_
    cases hx
    exact Globals.bundle_whole _

/-- All entities with a tick hold what globals hold, and the globals entity is one of them. It is the only one exactly
if the builder had not more than one before. -/
theorem globals_of_built {calls : List (Call R V)} (hw : ∀ call ∈ calls, ∀ x ∈ call.bundles, x.Whole)
    (hcalls : empty.performAll calls = b)
    (h : b.build system logs = .ok sim ∨ ∃ dt limit, b.buildWith system dt limit logs = .ok sim) :
    sim.store.Holds sim.globals Schema.tick.id ∧
    (∀ e, sim.store.Holds e Schema.tick.id →
      sim.store.Holds e Schema.seed.id ∧ sim.store.Holds e Schema.timeStep.id) ∧
    (∀ e, sim.store.Holds e Schema.tick.id ↔ b.store.Holds e Schema.tick.id ∨ e = sim.globals) ∧
    ((∀ e, sim.store.Holds e Schema.tick.id → e = sim.globals) ↔
      ∀ e f, b.store.Holds e Schema.tick.id → b.store.Holds f Schema.tick.id → e = f) := by
  have hb : b.Whole := hcalls ▸ empty_whole.performAll hw
  have hs := hb.reachable.valid
  obtain ⟨dt, limit, u, v, ha⟩ := exists_assembles_of_built hs h
  have hu := ha.ensured.valid hs
  have hholds : ∀ e c, sim.store.Holds e c ↔ u.Holds e c := fun e c => by
    rw [ha.store]
    exact (ha.stepped.refills hu).holds_iff hu e c
  have htick := fun e => (hholds e Schema.tick.id).trans (ha.ensured.holds_iff (f := e) hb)
  refine ⟨(htick _).2 (.inr rfl), fun e he => ?_, htick, ?_⟩
  · simp only [hholds] at he ⊢
    exact ha.ensured.whole hb e he
  · constructor
    · intro hone e f he hf
      rw [hone e ((htick e).2 (.inl he)), hone f ((htick f).2 (.inl hf))]
    · intro hone e he
      rcases (htick e).1 he with he | he
      · exact hone e _ he (ha.ensured.holds_of_holds hb he)
      · exact he

theorem globals_of_built_adopted : ∃ (calls : List (Call Float Tokens)) (system : System Float Tokens)
    (sim : Simulation Float Tokens), (∀ call ∈ calls, ∀ x ∈ call.bundles, x.Whole) ∧
      (empty.performAll calls).build system false = .ok sim ∧
      sim.globals = ⟨1⟩ ∧ sim.store.Holds ⟨1⟩ Schema.seed.id ∧ ∀ e, sim.store.Holds e Schema.tick.id → e = ⟨1⟩ := by
  let rock : Bundle Float := (Bundle.empty "rock").add (.scalar "heat" .f64) #v[1]
  let globals : Globals Float := ⟨7, 0.25⟩
  let calls : List (Call Float Tokens) := [.alter (.spawn rock), .alter (.spawn globals.bundle)]
  have hw : ∀ call ∈ calls, ∀ x ∈ call.bundles, x.Whole := by
    simp only [calls, List.forall_mem_cons, Call.bundles, Change.bundles]
    exact ⟨⟨fun h => absurd h (by decide +kernel), List.forall_mem_nil _⟩,
      ⟨globals.bundle_whole, List.forall_mem_nil _⟩, List.forall_mem_nil _⟩
  have hentities : (empty.performAll calls).store.entitiesWith Schema.tick.id = [⟨1⟩] := by decide +kernel
  have hbuild : ((empty.performAll calls).build (.pipeline []) false).map Simulation.globals = .ok ⟨1⟩ := by
    decide +kernel
  have hholds : ∀ e, (empty.performAll calls).store.Holds e Schema.tick.id → e = ⟨1⟩ := fun e he => by
    rw [← (empty_whole.performAll hw).reachable.valid.mem_entitiesWith_iff, hentities] at he
    exact List.mem_singleton.1 he
  obtain ⟨sim, h, hglobals⟩ := map_eq_ok_iff.1 hbuild
  obtain ⟨htick, hwhole, _, hone⟩ := globals_of_built hw rfl (.inl h)
  rw [hglobals] at htick hone
  exact ⟨calls, _, sim, hw, h, hglobals, (hwhole _ htick).1,
    hone.2 fun e f he hf => (hholds e he).trans (hholds f hf).symm⟩

theorem globals_of_built_twice : ∃ sim : Simulation Float Tokens,
    ((empty : Builder Float Tokens).performAll
      [.alter (.spawn (Globals.bundle ⟨1, 0.25⟩)), .spawnGlobals ⟨2, 0.5⟩]).build (.pipeline []) false = .ok sim ∧
    sim.globals = ⟨1⟩ ∧ sim.store.entitiesWith Schema.tick.id = [⟨0⟩, ⟨1⟩] := by
  let calls : List (Call Float Tokens) := [.alter (.spawn (Globals.bundle ⟨1, 0.25⟩)), .spawnGlobals ⟨2, 0.5⟩]
  have hbuild : ((empty.performAll calls).build (.pipeline []) false).map
      (fun sim => (sim.globals, sim.store.entitiesWith Schema.tick.id)) = .ok (⟨1⟩, [⟨0⟩, ⟨1⟩]) := by decide +kernel
  obtain ⟨sim, h, hsim⟩ := map_eq_ok_iff.1 hbuild
  exact ⟨sim, h, Prod.mk.inj hsim⟩

end Builder

end ColumnSim
