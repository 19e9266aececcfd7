import ColumnSim.Proofs.Composition
import ColumnSim.Proofs.Sparing
import ColumnSim.SixDof

namespace ColumnSim

variable {R : Type} {V : AssetKind → Type} {s u : Store R V} {c : Client} {x : R}

namespace Outcome

variable {S A : Type} {f g : A → S → Outcome S Unit} {xs : List A} {s : S}

lemma inOrder_congr {P : S → Prop} (hfg : ∀ x ∈ xs, ∀ s, P s → f x s = g x s) (hkept : ∀ x ∈ xs, ∀ s, P s → P (f x s).2)
    (hs : P s) : inOrder (xs.map f) s = inOrder (xs.map g) s := by
  induction xs generalizing s with
  | nil => rfl
  | cons x xs ih =>
    obtain ⟨hx, hxs⟩ := List.forall_mem_cons.1 hfg
    obtain ⟨hkx, hkxs⟩ := List.forall_mem_cons.1 hkept
    have ht := hkx s hs
    rw [List.map_cons, List.map_cons, inOrder, inOrder, ← hx s hs]
    rcases hstep : f x s with ⟨_ | _, t⟩
    · rfl
    · rw [hstep] at ht
      exact ih hxs hkxs ht

end Outcome

namespace System

/-- How the runs of a system end one after another. A run that fails does not stop those after it. -/
def trace (system : System R V) : List Client → Store R V → List (Outcome (Store R V) Unit)
  | [], _ => []
  | c :: clients, s =>
    let outcome := run c system s
    outcome :: system.trace clients outcome.2

lemma trace_congr {a b : System R V} {P : Store R V → Prop} (hab : ∀ c s, P s → run c a s = run c b s)
    (hkept : ∀ c s, P s → P (run c a s).2) (hs : P s) (clients : List Client) :
    a.trace clients s = b.trace clients s := by
  induction clients generalizing s with
  | nil => rfl
  | cons c clients ih =>
    simp only [trace]
    rw [← hab c s hs, ih (hkept c s hs)]

end System

lemma Integrator.run_forStep (i : Integrator R) (hx : s.timeStep = .ok x) :
    System.run c (i.forStep none) s = System.run c (i.forStep (some x)) s := by
  have hread : System.run c (i.forStep none) s = .ofStep s (s.timeStep >>= fun dt => (i.withStep dt).apply c s) := rfl
  rw [hread, hx]
  rfl

namespace SixDof

variable [Scalar R] {effector : Option (System R V)}

def parts (effector : Option (System R V)) : List (Option R → System R V) :=
  [fun _ => clearForces] ++ effector.toList.map (fun system _ => system) ++
    [fun _ => accelerate, integrateVelocity.forStep, integratePosition.forStep]

lemma run_eq_parts (d : SixDof R V) (c : Client) : System.run c d.system =
    Outcome.inOrder ((parts d.effector).map fun part => System.run c (part (d.step.map (·.value)))) := by
  have hsystem : d.system = .chain ((parts d.effector).map (· (d.step.map (·.value)))) := by
    simp [system, parts, Function.comp_def]
  rw [hsystem, System.run_chain, List.map_map]
  rfl

lemma forall_parts {P : (Option R → System R V) → Prop} (hclear : P fun _ => clearForces)
    (heffector : ∀ system ∈ effector, P fun _ => system) (haccelerate : P fun _ => accelerate)
    (hvelocity : P integrateVelocity.forStep) (hposition : P integratePosition.forStep) :
    ∀ part ∈ parts effector, P part := by
  simp only [parts, List.forall_mem_append, List.forall_mem_map, Option.mem_toList, List.forall_mem_cons]
  exact ⟨⟨⟨hclear, List.forall_mem_nil _⟩, heffector⟩, haccelerate, hvelocity, hposition, List.forall_mem_nil _⟩

lemma run_part (hx : s.timeStep = .ok x) : ∀ part ∈ parts effector,
    System.run c (part none) s = System.run c (part (some x)) s :=
  forall_parts rfl (fun _ _ => rfl) rfl (Integrator.run_forStep _ hx) (Integrator.run_forStep _ hx)

lemma spares_part (he : ∀ system ∈ effector, system.Spares .timeStep) (x : R) :
    ∀ part ∈ parts effector, (part (some x)).Spares .timeStep := by
  have hforce : Schema.timeStep.id ≠ Schema.force.id := by decide +kernel
  have haccel : Schema.timeStep.id ≠ Schema.worldAccel.id := by decide +kernel
  have hvel : Schema.timeStep.id ≠ Schema.worldVel.id := by decide +kernel
  have hpos : Schema.timeStep.id ≠ Schema.worldPos.id := by decide +kernel
  exact forall_parts (MapSystem.spares _ hforce) he (MapSystem.spares _ haccel) (MapSystem.spares _ hvel)
    (MapSystem.spares _ hpos)

lemma run_of_timeStep (hs : s.Reachable) {dt : TimeStep R} (hdt : s.timeStep = .ok dt.value)
    (he : ∀ system ∈ effector, system.Spares .timeStep) (c : Client) :
    System.run c (SixDof.mk none effector).system s = System.run c (SixDof.mk (some dt) effector).system s ∧
    (System.run c (SixDof.mk none effector).system s).2.Reachable ∧
    (System.run c (SixDof.mk none effector).system s).2.timeStep = .ok dt.value := by
  let Steady (s : Store R V) : Prop := s.Reachable ∧ s.timeStep = .ok dt.value
  have hpart : ∀ part ∈ parts effector, ∀ s, Steady s →
      System.run c (part none) s = System.run c (part (some dt.value)) s := fun part hm s hs => run_part hs.2 part hm
  have hkept : ∀ part ∈ parts effector, ∀ s, Steady s → Steady (System.run c (part none) s).2 := by
    intro part hm s hs
    have hspared := spares_part he dt.value part hm c s hs.1
    rw [← hpart part hm s hs] at hspared
    exact ⟨hspared.leadsTo.reachable hs.1, hspared.timeStep hs.1 hs.2⟩
  rw [run_eq_parts, run_eq_parts]
  exact ⟨Outcome.inOrder_congr hpart hkept ⟨hs, hdt⟩, Outcome.inOrder_invariant hkept ⟨hs, hdt⟩⟩

theorem trace_eq_of_timeStep (hs : s.Reachable) (dt : TimeStep R) (hdt : s.timeStep = .ok dt.value)
    (he : ∀ system ∈ effector, system.Spares .timeStep) (clients : List Client) :
    (SixDof.mk none effector).system.trace clients s = (SixDof.mk (some dt) effector).system.trace clients s := by
  let Steady (s : Store R V) : Prop := s.Reachable ∧ s.timeStep = .ok dt.value
  refine System.trace_congr (P := Steady) (fun c s hs => ?_) (fun c s hs => ?_) ⟨hs, hdt⟩ clients
  · exact (run_of_timeStep hs.1 hs.2 he c).1
  · exact (run_of_timeStep hs.1 hs.2 he c).2

theorem trace_eq_of_timeStep_craft : ∃ (s t : Store Float Tokens) (dt : TimeStep Float) (lift : System Float Tokens),
    s.Reachable ∧ t.Reachable ∧ s.timeStep = .ok dt.value ∧ t.timeStep = .ok dt.value ∧
    (∀ system ∈ some lift, system.Spares .timeStep) ∧
    (∀ clients, (SixDof.mk none (some lift)).system.trace clients s =
      (SixDof.mk (some dt) (some lift)).system.trace clients s) ∧
    ((SixDof.mk none (some lift)).system.trace [.default, .default] s).map (·.1) = [.ok (), .ok ()] ∧
    ((SixDof.mk (some dt) (some lift)).system.trace [.default, .default] s).map (fun outcome =>
      (outcome.2.bodyState ⟨1⟩).map (·.map fun b => (b.velocity.linear.z, b.pose.position.z))) =
      [.ok (some (0.125, 0.015625)), .ok (some (0.25, 0.046875))] ∧
    (∀ clients, (SixDof.mk none (some lift)).system.trace clients t =
      (SixDof.mk (some dt) (some lift)).system.trace clients t) ∧
    ((SixDof.mk none (some lift)).system.trace [.default, .default] t).map (fun outcome =>
      (outcome.1, outcome.2.get .force ⟨1⟩)) =
      let refused : Error := .typeMismatch "world_accel" ⟨.f32, [6]⟩ ⟨.f64, [6]⟩
      [(.error refused, .ok (some #v[0, 0, 0, 0, 0, 1])), (.error refused, .ok (some #v[0, 0, 0, 0, 0, 1]))] := by
  let clock : Change Float Tokens := .spawn (Globals.bundle ⟨0, 0.125⟩)
  let spin : Motion Float := .ofAngular ⟨0, 0, 1⟩
  let craft : Bundle Float := { Body.atRest .unit with velocity := spin }.bundle
  let cargo : Bundle Float := ((Bundle.empty "cargo").add .force (Wrench.zero (R := Float)).toVector
    |>.add .inertia (Inertia.unit (R := Float)).toVector).add ⟨"world_accel", .f32, [6]⟩ #v[0, 0, 0, 0, 0, 0]
  let s : Store Float Tokens := Store.empty.applyAll [clock, .spawn craft]
  let t : Store Float Tokens := Store.empty.applyAll [clock, .spawn cargo]
  let dt : TimeStep Float := ⟨0.125, by decide +kernel, by decide +kernel⟩
  let lift : MapSystem Float := ⟨"lift", [.inertia], .force, fun _ => #v[0, 0, 0, 0, 0, 1]⟩
  have hs : s.Reachable := ⟨_, rfl⟩
  have ht : t.Reachable := ⟨_, rfl⟩
  have hsdt : s.timeStep = .ok dt.value := by decide +kernel
  have htdt : t.timeStep = .ok dt.value := by decide +kernel
  have hlift : ∀ system ∈ some (System.map lift : System Float Tokens), system.Spares .timeStep := by
    rintro system ⟨⟩
    exact lift.spares (by decide +kernel)
  exact ⟨s, t, dt, .map lift, hs, ht, hsdt, htdt, hlift, trace_eq_of_timeStep hs dt hsdt hlift, by decide +kernel,
    by decide +kernel, trace_eq_of_timeStep ht dt htdt hlift, by decide +kernel⟩

end SixDof

end ColumnSim
