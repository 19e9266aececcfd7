import ColumnSim.Proofs.BodyParts
import ColumnSim.Proofs.Composition
import ColumnSim.Proofs.Evaluation
import ColumnSim.SixDof

/-! The step of a body. An integrator takes it for every body at once and for each from its own parts alone. -/

namespace ColumnSim

variable {R : Type} {V : AssetKind → Type} {s u : Store R V} {c : Client}

structure BodyMap (R : Type) where
  name : String
  reads : List Part
  nonempty : reads ≠ []
  output : Part
  f : Row R (reads.map Part.schema) → output.schema.Value R

namespace BodyMap

def mapSystem (m : BodyMap R) : MapSystem R where
  name := m.name
  inputs := m.reads.map Part.schema
  output := m.output.schema
  f := m.f

def system (m : BodyMap R) : System R V := .map m.mapSystem

def step (m : BodyMap R) (b : BodyState R) : BodyState R := b.set m.output (m.f (b.row m.reads))

variable {m : BodyMap R} {maps : List (BodyMap R)}

lemma run_ok (hs : s.Valid) (h : System.run c m.system s = (.ok (), u)) : s.Refills u ∧
    (∀ p ∈ m.reads, s.Agrees p.schema) ∧
    ∀ e b, s.bodyState e = .ok (some b) → u.bodyState e = .ok (some (m.step b)) := by
  obtain ⟨ha, happly⟩ := MapSystem.run_eq_ok_iff.1 h
  have hreads : ∀ p ∈ m.reads, s.Agrees p.schema := fun p hp => ha _ (List.mem_map_of_mem hp)
  refine ⟨ColumnWrite.refills hs happly, hreads, fun e b hb => ?_⟩
  have hout : s.Agrees m.mapSystem.output := Store.agrees_of_get (Store.bodyState_eq_some_iff.1 hb m.output)
  rw [ColumnWrite.apply_eq_write MapSystem.length_results hout] at happly
  have hne : m.mapSystem.inputs ≠ [] := fun hnil => m.nonempty (List.map_eq_nil_iff.1 hnil)
  obtain ⟨hset, hframe⟩ := hs.write_results hne ha happly
  refine Store.bodyState_eq_some_iff.2 fun p => ?_
  by_cases hp : p = m.output
  · subst hp
    rw [step, BodyState.value_set_self]
    exact hset e _ (Store.reads_row hb m.reads)
  · have hframed := hframe e p.schema fun _ _ => Part.schema_id_ne hp
    rw [step, BodyState.value_set_of_ne hp, hframed]
    exact Store.bodyState_eq_some_iff.1 hb p

lemma inOrder_ok (hs : s.Valid) (h : Outcome.inOrder (maps.map fun m => System.run c m.system) s = (.ok (), u)) :
    s.Refills u ∧ (∀ m ∈ maps, ∀ p ∈ m.reads, s.Agrees p.schema) ∧
    ∀ e b, s.bodyState e = .ok (some b) → u.bodyState e = .ok (some (maps.foldl (fun b m => m.step b) b)) := by
  induction maps generalizing s with
  | nil =>
    cases h
    exact ⟨.refl hs, List.forall_mem_nil _, fun _ _ hb => hb⟩
  | cons m maps ih =>
    obtain ⟨t, hstep, h⟩ := Outcome.inOrder_cons_eq_ok_iff.1 h
    obtain ⟨hst, hm, hbody⟩ := run_ok hs hstep
    obtain ⟨htu, hmaps, hbodies⟩ := ih hst.valid h
    refine ⟨hst.trans htu, List.forall_mem_cons.2 ⟨hm, fun x hx p hp => ?_⟩, fun e b hb => ?_⟩
    · exact hst.agrees_iff.1 (hmaps x hx p hp)
    · exact hbodies e _ (hbody e b hb)

end BodyMap

structure Effector (R : Type) where
  name : String
  reads : List Part
  nonempty : reads ≠ []
  f : Row R (reads.map Part.schema) → Schema.force.Value R

namespace Effector

def bodyMap (x : Effector R) : BodyMap R := ⟨x.name, x.reads, x.nonempty, .force, x.f⟩

def system (x : Effector R) : System R V := x.bodyMap.system

end Effector

variable [Scalar R]

def BodyState.step (effector : Option (Effector R)) (dt : R) (b : BodyState R) : BodyState R :=
  let b := { b with force := .zero }
  let b := match effector with
    | some x => { b with force := .ofVector (x.f (b.row x.reads)) }
    | none => b
  let b := { b with acceleration := b.inertia.accelerate b.pose b.velocity b.force }
  let b := { b with velocity := b.velocity.integrate b.acceleration dt }
  { b with pose := b.pose.integrate b.velocity dt }

namespace BodyMap

def clearForce : BodyMap R :=
  ⟨"clear_forces", [.force], List.cons_ne_nil _ _, .force, fun _ => (Wrench.zero (R := R)).toVector⟩

def accelerate : BodyMap R :=
  let answer : Row R [.worldPos, .worldVel, .inertia, .force] → Schema.worldAccel.Value R :=
    fun (pos, vel, inertia, force, _) =>
      ((Inertia.ofVector inertia).accelerate (.ofVector pos) (.ofVector vel) (.ofVector force)).toVector
  ⟨"accelerate", [.pose, .velocity, .inertia, .force], List.cons_ne_nil _ _, .acceleration, answer⟩

def moveVelocity (dt : R) : BodyMap R :=
  ⟨"integrate_velocity", [.velocity, .acceleration], List.cons_ne_nil _ _, .velocity, integrateVelocity.f dt⟩

def movePose (dt : R) : BodyMap R :=
  ⟨"integrate_position", [.pose, .velocity], List.cons_ne_nil _ _, .pose, integratePosition.f dt⟩

variable (b : BodyState R) (dt : R)

lemma step_clearForce : clearForce.step b = { b with force := .zero } := rfl

lemma step_accelerate :
    accelerate.step b = { b with acceleration := b.inertia.accelerate b.pose b.velocity b.force } := rfl

lemma step_moveVelocity :
    (moveVelocity dt).step b = { b with velocity := b.velocity.integrate b.acceleration dt } := rfl

lemma step_movePose : (movePose dt).step b = { b with pose := b.pose.integrate b.velocity dt } := rfl

end BodyMap

namespace SixDof

def maps (effector : Option (Effector R)) (dt : R) : List (BodyMap R) :=
  [.clearForce] ++ effector.toList.map Effector.bodyMap ++ [.accelerate, .moveVelocity dt, .movePose dt]

variable (effector : Option (Effector R)) (dt : TimeStep R) {b : BodyState R}

lemma system_eq_maps : (SixDof.mk (some dt) (effector.map Effector.system) : SixDof R V).system =
    .chain ((maps effector dt.value).map BodyMap.system) := by
  cases effector <;> rfl

lemma foldl_maps (dt : R) : (maps effector dt).foldl (fun b m => m.step b) b = b.step effector dt := by
  rw [maps, List.foldl_append, List.foldl_append]
  simp only [List.foldl_cons, List.foldl_nil, BodyMap.step_clearForce, BodyMap.step_accelerate,
    BodyMap.step_moveVelocity, BodyMap.step_movePose]
  cases effector <;> rfl

lemma exists_reads (p : Part) (dt : R) : ∃ m ∈ maps effector dt, p ∈ m.reads := by
  cases p with
  | acceleration => exact ⟨.moveVelocity dt, by simp [maps], by simp [BodyMap.moveVelocity]⟩
  | pose | velocity | inertia | force => exact ⟨.accelerate, by simp [maps], by simp [BodyMap.accelerate]⟩

lemma run_bodies (hs : s.Valid) (h : System.run c (SixDof.mk (some dt) (effector.map Effector.system)).system s =
    (.ok (), u)) : s.Refills u ∧ (∀ p : Part, s.Agrees p.schema) ∧
    ∀ e b, s.bodyState e = .ok (some b) → u.bodyState e = .ok (some (b.step effector dt.value)) := by
  rw [system_eq_maps, System.run_chain, List.map_map] at h
  obtain ⟨hu, hreads, hbody⟩ := BodyMap.inOrder_ok hs h
  refine ⟨hu, fun p => ?_, fun e b hb => ?_⟩
  · obtain ⟨m, hm, hp⟩ := exists_reads effector p dt.value
    exact hreads m hm p hp
  · rw [← foldl_maps]
    exact hbody e b hb

theorem bodyState_of_runs (hs : s.Reachable) {clients : List Client}
    (h : Outcome.inOrder (clients.map fun c => System.run c
      (SixDof.mk (some dt) (effector.map Effector.system)).system) s = (.ok (), u)) :
    (∀ e b, s.bodyState e = .ok (some b) →
      u.bodyState e = .ok (some ((BodyState.step effector dt.value)^[clients.length] b))) ∧
    (clients ≠ [] → ∀ e, (∀ p : Part, s.Holds e p.schema.id) → ∃ b, s.bodyState e = .ok (some b)) := by
  have hvalid := hs.valid
  clear hs
  induction clients generalizing s with
  | nil =>
    cases h
    exact ⟨fun _ _ hb => hb, fun hne => (hne rfl).elim⟩
  | cons c clients ih =>
    obtain ⟨t, hstep, h⟩ := Outcome.inOrder_cons_eq_ok_iff.1 h
    obtain ⟨ht, hagrees, hbody⟩ := run_bodies effector dt hvalid hstep
    refine ⟨fun e b hb => ?_, fun _ e he => hvalid.exists_bodyState fun p => ⟨hagrees p, he p⟩⟩
    rw [List.length_cons, Function.iterate_succ_apply]
    exact (ih h ht.valid).1 e _ (hbody e b hb)

theorem bodyState_of_runs_fleet : ∃ (s t u : Store Float Tokens) (dt : TimeStep Float) (lift : Effector Float)
    (craft probe : BodyState Float), s.Reachable ∧ s.bodyState ⟨1⟩ = .ok (some craft) ∧
    s.bodyState ⟨3⟩ = .ok (some probe) ∧ s.get .force ⟨2⟩ = .ok none ∧
    Outcome.inOrder ([Client.default].map fun c => System.run c
      (SixDof.mk (some dt) (some lift.system)).system) s = (.ok (), t) ∧
    Outcome.inOrder ([Client.default, .default].map fun c => System.run c
      (SixDof.mk (some dt) (some lift.system)).system) s = (.ok (), u) ∧
    (∃ b, t.bodyState ⟨3⟩ = .ok (some b) ∧ b = probe.step (some lift) dt.value ∧ b.velocity.angular.z = 1 ∧
      b.pose.orientation = (Quaternion.exp (b.velocity.angular.scale 0.0625) * probe.pose.orientation).normalize) ∧
    u.bodyState ⟨1⟩ = .ok (some ((BodyState.step (some lift) dt.value)^[2] craft)) ∧
    u.bodyState ⟨3⟩ = .ok (some ((BodyState.step (some lift) dt.value)^[2] probe)) ∧
    (u.bodyState ⟨3⟩).map (·.map (·.pose.position.z)) = .ok (some 0.046875) := by
  let craft : BodyState Float := ⟨.origin, .zero, .unit, .zero, .zero⟩
  let probe : BodyState Float := { craft with velocity := .ofAngular ⟨0, 0, 1⟩ }
  let bundle (b : BodyState Float) : Bundle Float := (Body.mk b.pose b.velocity b.inertia).bundle
  let tagged : Bundle Float := { bundle probe with name := .ofRaw "probe" }.add ⟨"tag", .u64, []⟩ (Schema.pack 7)
  let drone : Bundle Float := ((Bundle.empty "drone").add .worldPos (Pose.origin (R := Float)).toVector).add
    .worldVel (Motion.zero (R := Float)).toVector
  let changes : List (Change Float Tokens) :=
    [.spawn (Globals.bundle ⟨0, 0.125⟩), .spawn (bundle craft), .spawn drone, .spawn tagged]
  let s : Store Float Tokens := Store.empty.applyAll changes
  let dt : TimeStep Float := ⟨0.125, by decide +kernel, by decide +kernel⟩
  let lift : Effector Float := ⟨"lift", [.inertia], List.cons_ne_nil _ _, fun _ => #v[0, 0, 0, 0, 0, 1]⟩
  let fly (clients : List Client) : Outcome (Store Float Tokens) Unit := Outcome.inOrder (clients.map fun c =>
    System.run c (SixDof.mk (some dt) (some lift.system)).system) s
  have hs : s.Reachable := ⟨changes, rfl⟩
  have hcraft : s.bodyState ⟨1⟩ = .ok (some craft) := Store.bodyState_of_gets (by decide +kernel) (by decide +kernel)
    (by decide +kernel) (by decide +kernel) (by decide +kernel)
  have hprobe : s.bodyState ⟨3⟩ = .ok (some probe) := Store.bodyState_of_gets (by decide +kernel) (by decide +kernel)
    (by decide +kernel) (by decide +kernel) (by decide +kernel)
  have hone : (fly [.default]).1 = .ok () := by decide +kernel
  have htwo : (fly [.default, .default]).1 = .ok () := by decide +kernel
  have hfirst : fly [.default] = (.ok (), (fly [.default]).2) := by rw [← hone]
  have hsecond : fly [.default, .default] = (.ok (), (fly [.default, .default]).2) := by rw [← htwo]
  have hspin : (probe.step (some lift) dt.value).velocity.angular.z = 1 := by decide +kernel
  have hangle : (0.0625 : Float) = 0.5 * dt.value := by decide +kernel
  have hturn : (probe.step (some lift) dt.value).pose.orientation =
      (Quaternion.exp ((probe.step (some lift) dt.value).velocity.angular.scale 0.0625) *
        probe.pose.orientation).normalize := hangle ▸ rfl
  have hrise : ((fly [.default, .default]).2.bodyState ⟨3⟩).map (·.map (·.pose.position.z)) = .ok (some 0.046875) := by
    decide +kernel
  have honce := (bodyState_of_runs (some lift) dt hs hfirst).1
  have htwice := (bodyState_of_runs (some lift) dt hs hsecond).1
  exact ⟨s, (fly [.default]).2, (fly [.default, .default]).2, dt, lift, craft, probe, hs, hcraft, hprobe,
    by decide +kernel, hfirst, hsecond, ⟨_, honce _ _ hprobe, rfl, hspin, hturn⟩, htwice _ _ hcraft, htwice _ _ hprobe,
    hrise⟩

end SixDof

end ColumnSim
