import ColumnSim.Proofs.Build
import ColumnSim.Proofs.Tick

namespace ColumnSim

variable {R : Type} {V : AssetKind → Type} {s u : Store R V} {schema : Schema} {error : Error} {c : Client}

lemma Outcome.inOrder_invariant {S A : Type} {P : S → Prop} {f : A → S → Outcome S Unit} {xs : List A} {s : S}
    (hstep : ∀ x ∈ xs, ∀ s, P s → P (f x s).2) (hs : P s) : P (inOrder (xs.map f) s).2 := by
  induction xs generalizing s with
  | nil => exact hs
  | cons x xs ih =>
    obtain ⟨hx, hxs⟩ := List.forall_mem_cons.1 hstep
    have ht := hx s hs
    rw [List.map_cons, inOrder]
    rcases h : f x s with ⟨_ | _, t⟩
    · rw [h] at ht
      exact ht
    · rw [h] at ht
      exact ih hxs ht

namespace Leaf

variable {l : Leaf R V}

lemma clashes_iff (h : s.Refills u) : l.Clashes u error ↔ l.Clashes s error :=
  exists_congr fun _ => and_congr_right fun _ => h.rejects_iff

lemma lacks_iff (h : s.Refills u) (hs : s.Valid) : l.Lacks u error ↔ l.Lacks s error := by
  simp only [Lacks, h.holds_iff hs]

lemma Plain.eq_or_write (hl : l.Plain) (hs : s.Valid) (c : Client) : (System.run c l.system s).2 = s ∨
    ∃ output ∈ l.system.effects, ∃ es vs, s.write output es vs = .ok (System.run c l.system s).2 := by
  rcases h : System.run c l.system s with ⟨e | _, u⟩
  · exact .inl (hl.eq_of_error h)
  · exact hl.run_ok hs h

lemma Plain.refills (hl : l.Plain) (hs : s.Valid) (c : Client) : s.Refills (System.run c l.system s).2 := by
  rcases hl.eq_or_write hs c with hu | ⟨_, _, _, _, hw⟩
  · rw [hu]
    exact .refl hs
  · exact .write hs hw

lemma refills_inOrder {ls : List (Leaf R V)} (hls : ∀ l ∈ ls, l.Plain) (hs : s.Valid) (c : Client) :
    s.Refills (Outcome.inOrder (ls.map fun l => System.run c l.system) s).2 :=
  Outcome.inOrder_invariant (P := s.Refills) (fun l hl _ h => h.trans ((hls l hl).refills h.valid c)) (.refl hs)

lemma firstById_reads (l : Leaf R V) (seen : List ComponentId) :
    Schema.firstById seen l.system.referencedInputs = Schema.firstById seen l.reads := by
  cases l with
  | map m => rfl
  | fold f => exact Schema.firstById_firstById (List.forall_mem_nil _) _
  | procedure p => rfl

end Leaf

namespace Simulation

variable {sim : Simulation R V}

def leaves (sim : Simulation R V) : List (Leaf R V) := (System.pipeline sim.stages).leaves

def reads (sim : Simulation R V) : List Schema := sim.leaves.flatMap Leaf.reads

def effects (sim : Simulation R V) : List Schema := sim.leaves.flatMap fun l => l.system.effects

def after (sim : Simulation R V) (clients : List Client) : Simulation R V :=
  clients.foldl (fun sim c => (sim.run c).2) sim

lemma runStages_eq_leaves (sim : Simulation R V) (c : Client) : System.runStages c sim.stages =
    Outcome.inOrder (sim.leaves.map fun l => System.run c l.system) :=
  System.run_eq_leaves c (.pipeline sim.stages)

structure Continues (sim later : Simulation R V) : Prop where
  stages : later.stages = sim.stages
  limit : later.limit = sim.limit
  store : sim.store.Refills later.store

lemma continues_run (hp : ∀ l ∈ sim.leaves, l.Plain) (hv : sim.store.Valid) (c : Client) :
    sim.Continues (sim.run c).2 := by
  have hrefills := Leaf.refills_inOrder hp hv c
  rw [← runStages_eq_leaves] at hrefills
  rcases sim.run_eq_or c with h | ⟨_, h⟩
  · rw [h]
    exact ⟨rfl, rfl, .refl hv⟩
  · rw [h]
    exact ⟨rfl, rfl, hrefills⟩

lemma continues_after (hp : ∀ l ∈ sim.leaves, l.Plain) (hv : sim.store.Valid) (clients : List Client) :
    sim.Continues (sim.after clients) := by
  induction clients generalizing sim with
  | nil => exact ⟨rfl, rfl, .refl hv⟩
  | cons c clients ih =>
    have hc := continues_run hp hv c
    have hleaves : (sim.run c).2.leaves = sim.leaves := congrArg (System.pipeline · |>.leaves) hc.stages
    -- A tick keeps the stages, so that the next one runs the same leaves.
    have hrest := ih (hleaves ▸ hp) hc.store.valid
    exact ⟨hrest.stages.trans hc.stages, hrest.limit.trans hc.limit, hc.store.trans hrest.store⟩

lemma run_error (hp : ∀ l ∈ sim.leaves, l.Plain) (hv : sim.store.Valid) (h : (sim.run c).1 = .error error) :
    (∃ limit, sim.limit = some limit ∧ limit ≤ sim.ticks ∧ error = .tickLimit limit) ∨
      ∃ l ∈ sim.leaves, l.Lacks sim.store error ∨ l.Clashes sim.store error := by
  rcases run_eq_error (Prod.ext h rfl) with ⟨limit, hlimit, hle, he, _⟩ | ⟨store, hstages, _⟩
  · exact .inl ⟨limit, hlimit, hle, he⟩
  · rw [runStages_eq_leaves] at hstages
    obtain ⟨front, l, back, t, hsplit, hfront, hl⟩ := Outcome.inOrder_eq_error hstages
    obtain ⟨hpf, hpl⟩ := List.forall_mem_append.1 (hsplit ▸ hp)
    have ht := Leaf.refills_inOrder hpf hv c
    rw [hfront] at ht
    have herror := (hpl l (List.mem_cons_self ..)).run_error ht.valid hl
    rw [Leaf.lacks_iff ht hv, Leaf.clashes_iff ht] at herror
    exact .inr ⟨l, hsplit ▸ List.mem_append_right _ (List.mem_cons_self ..), herror⟩

lemma exists_checked (hm : schema ∈ sim.reads) :
    ∃ first ∈ (System.pipeline sim.stages).referencedInputs, first ∈ sim.reads ∧ first.id = schema.id := by
  have hchecked : (System.pipeline sim.stages).referencedInputs = Schema.firstById [] sim.reads := by
    rw [System.merges_referencedInputs.pipeline_eq]
    exact Schema.firstById_flatMap (fun l _ => l.firstById_reads) []
  obtain ⟨first, hfirst, _, hid⟩ := Schema.exists_first_of_mem hm
  exact ⟨first, hchecked ▸ hfirst, (Schema.mem_of_firstById hfirst).1, hid⟩

lemma forall_agrees_reads_iff
    (h : ∀ schema ∈ (System.pipeline sim.stages).referencedInputs, sim.store.RegistersAs schema) :
    (∀ schema ∈ sim.reads, sim.store.Agrees schema) ↔
      ∀ x ∈ sim.reads, ∀ y ∈ sim.reads, x.id = y.id → x.layout = y.layout := by
  constructor
  · intro hagree x hx y hy hid
    obtain ⟨first, hfirst, _, hfx⟩ := exists_checked hx
    obtain ⟨registered, hr, _⟩ := h first hfirst
    rw [hfx] at hr
    exact (hagree x hx registered hr).symm.trans (hagree y hy registered (hid ▸ hr))
  · intro hsame schema hm
    obtain ⟨first, hfirst, hread, hid⟩ := exists_checked hm
    exact ((h first hfirst).congr hid (hsame first hread schema hm hid)).agrees

lemma not_clashes_iff : (∀ l ∈ sim.leaves, ∀ error, ¬l.Clashes sim.store error) ↔
    (∀ schema ∈ sim.reads, sim.store.Agrees schema) ∧ ∀ output ∈ sim.effects, sim.store.Agrees output := by
  have hleaf : ∀ l : Leaf R V, (∀ error, ¬l.Clashes sim.store error) ↔
      ∀ schema ∈ l.reads ++ l.system.effects, sim.store.Agrees schema := by
    intro l
    rw [← not_exists, ← not_iff_not, not_not]
    simp only [Leaf.Clashes, not_forall, ← Store.exists_rejects_iff]
    constructor
    · rintro ⟨error, schema, hm, hr⟩
      exact ⟨schema, hm, error, hr⟩
    · rintro ⟨schema, hm, error, hr⟩
      exact ⟨error, schema, hm, hr⟩
  simp only [hleaf, reads, effects, List.forall_mem_flatMap, List.forall_mem_append, forall_and]

end Simulation

namespace Builder

variable [Scalar R] {b : Builder R V} {system : System R V} {sim : Simulation R V} {logs : Bool}

/-- A run of maps and folds fails by the limit, by an output that an entity lacks, or by a layout. The build leaves no
layout to fail by exactly if the schemas that are read agree with each other and those that are written with the
store. -/
theorem run_errors_of_built (hs : b.store.Reachable)
    (h : b.build system logs = .ok sim ∨ ∃ dt limit, b.buildWith system dt limit logs = .ok sim)
    (hp : ∀ l ∈ system.leaves, l.Plain) :
    (∀ clients c error, ((sim.after clients).run c).1 = .error error →
      (∃ limit, sim.limit = some limit ∧ limit ≤ (sim.after clients).ticks ∧ error = .tickLimit limit) ∨
        ∃ l ∈ sim.leaves, l.Lacks sim.store error ∨ l.Clashes sim.store error) ∧
    ((∀ l ∈ sim.leaves, ∀ error, ¬l.Clashes sim.store error) ↔
      (∀ x ∈ sim.reads, ∀ y ∈ sim.reads, x.id = y.id → x.layout = y.layout) ∧
        ∀ output ∈ sim.effects, sim.store.Agrees output) := by
  obtain ⟨_, _, _, _, ha⟩ := exists_assembles_of_built hs.valid h
  have hv := (ha.sim_reachable hs).valid
  have hleaves : sim.leaves = .map incrementTick :: system.leaves := by
    rw [Simulation.leaves, ha.stages, System.leaves_pipeline, List.flatMap_cons, System.flatMap_leaves_stages]
    rfl
  have hplain : ∀ l ∈ sim.leaves, l.Plain := hleaves ▸ List.forall_mem_cons.2 ⟨trivial, hp⟩
  refine ⟨fun clients c error herror => ?_, ?_⟩
  · have hc := Simulation.continues_after hplain hv clients
    have hsame : (sim.after clients).leaves = sim.leaves := congrArg (System.pipeline · |>.leaves) hc.stages
    have hrun := Simulation.run_error (hsame ▸ hplain) hc.store.valid herror
    simp only [hsame, hc.limit, Leaf.lacks_iff hc.store hv, Leaf.clashes_iff hc.store] at hrun
    exact hrun
  · rw [Simulation.not_clashes_iff, Simulation.forall_agrees_reads_iff ha.registers]

theorem run_errors_of_built_cold : ∃ (b : Builder Float Tokens) (system : System Float Tokens)
    (sim : Simulation Float Tokens), b.store.Reachable ∧ b.build system false = .ok sim ∧
      (∀ l ∈ system.leaves, l.Plain) ∧
      ((sim.after [.default, .default]).run .default).1 = .error (.missingOutput ⟨0⟩ "cold") ∧
      (∀ l ∈ sim.leaves, ∀ error, ¬l.Clashes sim.store error) ∧
      ∃ l ∈ sim.leaves, l.Lacks sim.store (.missingOutput ⟨0⟩ "cold") := by
  let heat : Schema := .scalar "heat" .f64
  let rock : Bundle Float := (Bundle.empty "rock").add heat #v[1]
  let changes : List (Change Float Tokens) := [.spawn rock]
  let b : Builder Float Tokens := ⟨Store.empty.applyAll changes, none⟩
  let warm : System Float Tokens := .map ⟨"warm", [heat], heat, fun _ => #v[2]⟩
  let cool : System Float Tokens := .map ⟨"cool", [heat], .scalar "cold" .f64, fun (v, _) => v⟩
  have hs : b.store.Reachable := ⟨changes, rfl⟩
  have hp : ∀ l ∈ (warm.pipe cool).leaves, l.Plain :=
    List.forall_mem_cons.2 ⟨trivial, List.forall_mem_singleton.2 trivial⟩
  have hbuild : (b.build (warm.pipe cool) false).map (fun sim => (sim.reads, sim.limit,
      decide (∀ output ∈ sim.effects, sim.store.checkSchema output = .ok ()),
      ((sim.after [.default, .default]).run .default).1)) =
      .ok ([.tick, heat, heat], none, true, .error (.missingOutput ⟨0⟩ "cold")) := by decide +kernel
  obtain ⟨sim, h, hsim⟩ := map_eq_ok_iff.1 hbuild
  obtain ⟨hreads, hsim⟩ := Prod.mk.inj hsim
  obtain ⟨hlimit, hsim⟩ := Prod.mk.inj hsim
  obtain ⟨heffects, herror⟩ := Prod.mk.inj hsim
  have hsame : ∀ x ∈ [Schema.tick, heat, heat], ∀ y ∈ [Schema.tick, heat, heat],
      x.id = y.id → x.layout = y.layout := by
    decide +kernel
  obtain ⟨hconfined, hclash⟩ := run_errors_of_built hs (.inl h) hp
  have hnone := hclash.2 ⟨hreads ▸ hsame, fun output hm =>
    Store.checkSchema_eq_ok_iff.1 (of_decide_eq_true heffects output hm)⟩
  refine ⟨b, _, sim, hs, h, hp, herror, hnone, ?_⟩
  rcases hconfined _ _ _ herror with ⟨limit, hl, _⟩ | ⟨l, hl, hlacks | hclashes⟩
  · rw [hlimit] at hl
    cases hl
  · exact ⟨l, hl, hlacks⟩
  · exact (hnone l hl _ hclashes).elim

theorem run_errors_of_built_narrow : ∃ (b : Builder Float Tokens) (system : System Float Tokens)
    (sim : Simulation Float Tokens), b.store.Reachable ∧ b.build system false = .ok sim ∧
      (∀ l ∈ system.leaves, l.Plain) ∧
      (sim.run .default).1 = .error (.typeMismatch "heat" ⟨.f64, []⟩ ⟨.f32, []⟩) := by
  let heat : Schema := .scalar "heat" .f64
  let rock : Bundle Float := (Bundle.empty "rock").add heat #v[1]
  let changes : List (Change Float Tokens) := [.spawn rock]
  let b : Builder Float Tokens := ⟨Store.empty.applyAll changes, none⟩
  let narrow : System Float Tokens := .map ⟨"narrow", [heat], .scalar "heat" .f32, fun _ => #v[2]⟩
  have hrun : (b.build narrow false).map (fun sim => (sim.run .default).1) =
      .ok (.error (.typeMismatch "heat" ⟨.f64, []⟩ ⟨.f32, []⟩)) := by decide +kernel
  obtain ⟨sim, h, herror⟩ := map_eq_ok_iff.1 hrun
  exact ⟨b, narrow, sim, ⟨changes, rfl⟩, h, List.forall_mem_singleton.2 trivial, herror⟩

end Builder

end ColumnSim
