import ColumnSim.Proofs.Shape
import ColumnSim.Proofs.Sparing

/-! Frozen stores. What is done with one can change values and assets, and nothing else. -/

namespace ColumnSim

variable {R : Type} {V : AssetKind → Type} {s u : Store R V}

namespace Store

structure Closed (s : Store R V) : Prop where
  frozen : s.frozen = true
  spawn : ∀ b, s.spawn b = .error (.frozen b.name.text)
  spawnNamed : ∀ b name, s.spawnNamed b name = .error (.frozen b.name.text)
  spawnBatch : ∀ b bs, s.spawnBatch (b :: bs) = (.error (.frozen b.name.text), s)
  attach : ∀ e b, s.attach e b = .error (if s.entities.contains e then .frozen b.name.text else .neverSpawned e)

lemma closed_of_frozen (hf : s.frozen = true) : s.Closed := by
  have hspawn := spawn_of_frozen hf
  refine ⟨hf, hspawn, fun b name => ?_, fun b bs => ?_, fun e b => ?_⟩
  · rw [spawnNamed, hspawn]
    rfl
  · rw [spawnBatch, hspawn]
  · rw [attach, check, hf]
    cases s.entities.contains e <;> rfl

lemma shape_apply (hs : s.Valid) (hc : s.Closed) (change : Change R V) : (s.apply change).2.shape = s.shape := by
  cases change with
  | spawn b => rw [apply, hc.spawn]; rfl
  | spawnNamed b name => rw [apply, hc.spawnNamed]; rfl
  | spawnBatch bs =>
    cases bs with
    | nil => rfl
    | cons b bs => rw [apply, hc.spawnBatch]
  | attach e b => rw [apply, hc.attach]; rfl
  | write schema es vs =>
    rw [apply]
    cases h : s.write schema es vs with
    | error error => rfl
    | ok u => exact (Refills.write hs h).shape_eq hs
  | insertAsset kind content => rfl
  | freeze => rfl

lemma LeadsTo.closed (h : s.LeadsTo u) (hf : s.frozen = true) : u.Closed := by
  obtain ⟨changes, rfl⟩ := h
  exact closed_of_frozen ((s.applyAll_run changes).keeps_frozen hf)

lemma LeadsTo.shape_eq (h : s.LeadsTo u) (hs : s.Valid) (hf : s.frozen = true) : u.shape = s.shape := by
  obtain ⟨changes, rfl⟩ := h
  induction changes generalizing s with
  | nil => rfl
  | cons change changes ih =>
    have hrun := s.apply_run change
    have hrest := ih (hrun.valid hs) (hrun.keeps_frozen hf)
    exact hrest.trans (shape_apply hs (closed_of_frozen hf) change)

end Store

namespace System

/-- The procedures of a system act on the store that they are given, through its changes. Maps and folds always do. -/
def Lawful (system : System R V) : Prop :=
  ∀ p, .procedure p ∈ system.leaves → ∀ (c : Client) (s : Store R V), s.Reachable → s.LeadsTo (p.body c s).2

variable {system : System R V}

lemma Lawful.leadsTo (h : system.Lawful) (hs : s.Reachable) (c : Client) : s.LeadsTo (run c system s).2 := by
  rw [run_eq_leaves]
  refine Outcome.inOrder_invariant (P := s.LeadsTo) (fun l hl t ht => ht.trans ?_) .refl
  have htr := ht.reachable hs
  cases l with
  | map m => exact Leaf.Plain.leadsTo (l := .map m) trivial htr.valid c
  | fold f => exact Leaf.Plain.leadsTo (l := .fold f) trivial htr.valid c
  | procedure p => exact h p hl c t htr

end System

inductive Operation (R : Type) (V : AssetKind → Type)
  | call (change : Change R V)
  | run (c : Client) (system : System R V)

namespace Operation

def apply : Operation R V → Store R V → Store R V
  | call change, s => (s.apply change).2
  | run c system, s => (System.run c system s).2

def Lawful : Operation R V → Prop
  | call _ => True
  | run _ system => system.Lawful

def applyAll (operations : List (Operation R V)) (s : Store R V) : Store R V :=
  operations.foldl (fun s operation => operation.apply s) s

lemma Lawful.leadsTo {operation : Operation R V} (h : operation.Lawful) (hs : s.Reachable) :
    s.LeadsTo (operation.apply s) := by
  cases operation with
  | call change => exact ⟨[change], rfl⟩
  | run c system => exact System.Lawful.leadsTo h hs c

lemma leadsTo_applyAll {operations : List (Operation R V)} (h : ∀ operation ∈ operations, operation.Lawful)
    (hs : s.Reachable) : s.LeadsTo (applyAll operations s) := by
  induction operations generalizing s with
  | nil => exact .refl
  | cons operation operations ih =>
    obtain ⟨hfirst, hrest⟩ := List.forall_mem_cons.1 h
    have hstep := hfirst.leadsTo hs
    exact hstep.trans (ih hrest (hstep.reachable hs))

end Operation

namespace Simulation

variable {sim : Simulation R V}

lemma leadsTo_run (h : (System.pipeline sim.stages).Lawful) (hs : sim.store.Reachable) (c : Client) :
    (sim.run c).2.stages = sim.stages ∧ sim.store.LeadsTo (sim.run c).2.store := by
  rcases sim.run_eq_or c with hrun | ⟨_, hrun⟩
  · rw [hrun]
    exact ⟨rfl, .refl⟩
  · rw [hrun]
    exact ⟨rfl, h.leadsTo hs c⟩

lemma leadsTo_after (h : (System.pipeline sim.stages).Lawful) (hs : sim.store.Reachable) (clients : List Client) :
    sim.store.LeadsTo (sim.after clients).store := by
  induction clients generalizing sim with
  | nil => exact .refl
  | cons c clients ih =>
    obtain ⟨hstages, hstep⟩ := leadsTo_run h hs c
    exact hstep.trans (ih (hstages ▸ h) (hstep.reachable hs))

end Simulation

theorem Store.shape_of_frozen [Scalar R] :
    (∀ (s : Store R V) (operations : List (Operation R V)), s.Reachable → s.frozen = true →
      (∀ operation ∈ operations, operation.Lawful) →
        (Operation.applyAll operations s).Closed ∧ (Operation.applyAll operations s).shape = s.shape) ∧
    ∀ (b : Builder R V) (system : System R V) (logs : Bool) (sim : Simulation R V) (clients : List Client),
      b.store.Reachable →
      (b.build system logs = .ok sim ∨ ∃ dt limit, b.buildWith system dt limit logs = .ok sim) → system.Lawful →
        (sim.after clients).store.Closed ∧ (sim.after clients).store.shape = sim.store.shape := by
  constructor
  · intro s operations hs hf hlawful
    have h := Operation.leadsTo_applyAll hlawful hs
    exact ⟨h.closed hf, h.shape_eq hs.valid hf⟩
  · intro b system logs sim clients hs hbuild hlawful
    obtain ⟨_, _, _, v, ha⟩ := Builder.exists_assembles_of_built hs.valid hbuild
    have hf : sim.store.frozen = true := by
      rw [ha.store]
      rfl
    have hstages : (System.pipeline sim.stages).Lawful := by
      intro p hm
      rw [ha.stages, System.leaves_pipeline, List.flatMap_cons, System.flatMap_leaves_stages] at hm
      rcases List.mem_append.1 hm with hm | hm
      · cases List.mem_singleton.1 hm
      · exact hlawful p hm
    have hr := ha.sim_reachable hs
    have h := Simulation.leadsTo_after hstages hr clients
    exact ⟨h.closed hf, h.shape_eq hr.valid hf⟩

theorem Store.shape_of_frozen_rock : ∃ (s u : Store Float Tokens) (operations : List (Operation Float Tokens)),
    s.Reachable ∧ s.frozen = true ∧ (∀ operation ∈ operations, operation.Lawful) ∧ Operation.applyAll operations s = u ∧
    u.get (.scalar "heat" .f64) ⟨0⟩ = .ok (some #v[2]) ∧ u.Closed ∧ u.shape = s.shape ∧
    ∃ (b : Builder Float Tokens) (system : System Float Tokens) (sim : Simulation Float Tokens), b.store.Reachable ∧
      b.build system false = .ok sim ∧ system.Lawful ∧ (sim.run .default).1 = .error (.frozen "rock") ∧
      (sim.after [.default, .default]).store.shape = sim.store.shape := by
  let heat : Schema := .scalar "heat" .f64
  let rock : Bundle Float := (Bundle.empty "rock").add heat #v[1]
  let changes : List (Change Float Tokens) := [.spawn rock, .freeze]
  let warm : MapSystem Float := ⟨"warm", [heat], heat, fun _ => #v[2]⟩
  let grow : Procedure Float Tokens := ⟨"grow", [heat], [], fun _ s => s.perform (.spawn rock)⟩
  let system : System Float Tokens := .pipeline [.map warm, .procedure grow]
  let operations : List (Operation Float Tokens) :=
    [.call (.attach ⟨0⟩ rock), .run .default system, .call (.spawnBatch [rock])]
  have hlawful : system.Lawful := by
    intro p hm c s _
    rcases List.mem_pair.1 hm with hp | hp
    · cases hp
    · cases hp
      exact ⟨[.spawn rock], rfl⟩
  have hoperations : ∀ operation ∈ operations, operation.Lawful :=
    List.forall_mem_cons.2 ⟨trivial, List.forall_mem_cons.2 ⟨hlawful, List.forall_mem_singleton.2 trivial⟩⟩
  have hs : (empty.applyAll changes).Reachable := ⟨changes, rfl⟩
  obtain ⟨hclosed, hshape⟩ := shape_of_frozen.1 _ operations hs rfl hoperations
  let b : Builder Float Tokens := ⟨Store.empty.applyAll [.spawn rock], none⟩
  have hb : b.store.Reachable := ⟨[.spawn rock], rfl⟩
  have hbuild : (b.build system false).map (fun sim => (sim.run .default).1) = .ok (.error (.frozen "rock")) := by
    decide +kernel
  obtain ⟨sim, h, hrun⟩ := map_eq_ok_iff.1 hbuild
  exact ⟨_, _, operations, hs, rfl, hoperations, rfl, by decide +kernel, hclosed, hshape, b, system, sim, hb, h,
    hlawful, hrun, (shape_of_frozen.2 b system false sim [.default, .default] hb (.inl h) hlawful).2⟩

end ColumnSim
