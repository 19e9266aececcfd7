import ColumnSim.Proofs.BodyStep
import ColumnSim.Proofs.RigidBody
import ColumnSim.Proofs.StepSource

/-! The path of a body under a constant force, in closed form. In every step the force of this step changes the
velocity first, and the new velocity the position. -/

namespace ColumnSim

open Exact

attribute [-instance] Scalar.toAdd Scalar.toSub Scalar.toMul Scalar.toDiv Scalar.toNeg Scalar.toOfScientific

section Ticks

variable {R : Type} {V : AssetKind → Type} {s u : Store R V} {c : Client} {e : EntityId} {f : Vec3 R}

structure Store.Pushed (s : Store R V) (e : EntityId) (f : Vec3 R) (u : Store R V) : Prop where
  reachable : u.Reachable
  body : ∀ b, s.bodyState e = .ok (some b) → ∃ torque, u.bodyState e = .ok (some { b with force := ⟨torque, f⟩ })

structure Store.WholeBodies (s : Store R V) : Prop where
  agrees : ∀ p : Part, s.Agrees p.schema
  holds : ∀ {e} {p : Part}, s.Holds e p.schema.id → ∀ q : Part, s.Holds e q.schema.id

lemma Store.WholeBodies.refills (h : s.WholeBodies) (hs : s.Valid) (hu : s.Refills u) : u.WholeBodies where
  agrees p := hu.agrees_iff.2 (h.agrees p)
  holds hp q := (hu.holds_iff hs _ _).2 (h.holds ((hu.holds_iff hs _ _).1 hp) q)

namespace BodyMap

variable {m : BodyMap R} {maps : List (BodyMap R)}

lemma exists_run (hs : s.Valid) (h : s.WholeBodies) (c : Client) (m : BodyMap R) :
    ∃ u, System.run c m.system s = (.ok (), u) ∧ s.Refills u := by
  obtain ⟨p, hp⟩ := List.exists_mem_of_ne_nil _ m.nonempty
  have hne : m.mapSystem.inputs ≠ [] := fun hnil => m.nonempty (List.map_eq_nil_iff.1 hnil)
  have ha : ∀ schema ∈ m.mapSystem.inputs, s.Agrees schema := List.forall_mem_map.2 fun q _ => h.agrees q
  have hall : ∀ e row, Row.Reads s e m.mapSystem.inputs row → s.Holds e m.output.schema.id := fun e row hrow =>
    h.holds ((hs.exists_reads_iff ha).1 ⟨row, hrow⟩ p.schema (List.mem_map_of_mem hp)) m.output
  obtain ⟨u, hu, _, _, hrefills⟩ := hs.exists_run_map hne ha c (h.agrees m.output) hall
  exact ⟨u, hu, hrefills⟩

lemma exists_inOrder (hs : s.Valid) (h : s.WholeBodies) (c : Client) (maps : List (BodyMap R)) :
    ∃ u, Outcome.inOrder (maps.map fun m => System.run c m.system) s = (.ok (), u) ∧ s.Refills u := by
  induction maps generalizing s with
  | nil => exact ⟨s, rfl, .refl hs⟩
  | cons m maps ih =>
    obtain ⟨t, ht, hst⟩ := exists_run hs h c m
    obtain ⟨u, hu, htu⟩ := ih hst.valid (h.refills hs hst)
    exact ⟨u, Outcome.inOrder_cons_eq_ok_iff.2 ⟨t, ht, hu⟩, hst.trans htu⟩

lemma reachable_run (hs : s.Reachable) (c : Client) (m : BodyMap R) : (System.run c m.system s).2.Reachable :=
  (Leaf.Plain.leadsTo (l := .map m.mapSystem) trivial hs.valid c).reachable hs

lemma reachable_inOrder (hs : s.Reachable) (c : Client) (maps : List (BodyMap R)) :
    (Outcome.inOrder (maps.map fun m => System.run c m.system) s).2.Reachable :=
  Outcome.inOrder_invariant (P := Store.Reachable) (fun m _ _ hs => reachable_run hs c m) hs

end BodyMap

lemma Effector.pushed (x : Effector R) (hx : ∀ row, (Wrench.ofVector (x.f row)).force = f) (hs : s.Reachable)
    (h : System.run c x.system s = (.ok (), u)) : s.Pushed e f u where
  reachable := by
    have hu := BodyMap.reachable_run hs c x.bodyMap
    rwa [show System.run c x.bodyMap.system s = (.ok (), u) from h] at hu
  body b hb := by
    obtain ⟨_, _, hbody⟩ := BodyMap.run_ok hs.valid h
    refine ⟨(Wrench.ofVector (x.f (b.row x.reads))).torque, (hbody e b hb).trans ?_⟩
    rw [← hx (b.row x.reads)]
    rfl

namespace SixDof

variable [Scalar R] {step : Option (TimeStep R)} {dt : TimeStep R} {x : System R V}

/-- The integrator steps by `dt`, which is its own step, or that of a store whose step the effector spares. -/
def StepsBy (step : Option (TimeStep R)) (x : System R V) (dt : TimeStep R) (s : Store R V) : Prop :=
  step = some dt ∨ step = none ∧ s.timeStep = .ok dt.value ∧ x.Spares .timeStep

def Pushes (step : Option (TimeStep R)) (x : System R V) (e : EntityId) (f : Vec3 R) : List Client → Store R V → Prop
  | [], _ => True
  | c :: clients, s =>
    let cleared := (System.run c clearForces s).2
    (∀ u, System.run c x cleared = (.ok (), u) → cleared.Pushed e f u) ∧
      Pushes step x e f clients (System.run c (SixDof.mk step (some x)).system s).2

lemma StepsBy.run (h : StepsBy step x dt s) (hs : s.Reachable) (c : Client) :
    System.run c (SixDof.mk step (some x)).system s = System.run c (SixDof.mk (some dt) (some x)).system s ∧
    StepsBy step x dt (System.run c (SixDof.mk step (some x)).system s).2 := by
  rcases h with rfl | ⟨rfl, hdt, hx⟩
  · exact ⟨rfl, .inl rfl⟩
  · have heffector : ∀ system ∈ some x, system.Spares .timeStep := by
      rintro _ ⟨⟩
      exact hx
    obtain ⟨hrun, _, hkept⟩ := run_of_timeStep hs hdt heffector c
    exact ⟨hrun, .inr ⟨rfl, hkept, hx⟩⟩

def moves (dt : R) : List (BodyMap R) := [.accelerate, .moveVelocity dt, .movePose dt]

lemma run_eq_moves (dt : TimeStep R) (x : System R V) (c : Client) :
    System.run c (SixDof.mk (some dt) (some x)).system =
      Outcome.inOrder (System.run c clearForces :: System.run c x ::
        (moves dt.value).map fun m => System.run c m.system) := by
  rw [run_eq_parts]
  rfl

lemma run_pushed (hs : s.Reachable)
    (hx : ∀ t, System.run c x (System.run c clearForces s).2 = (.ok (), t) →
      (System.run c clearForces s).2.Pushed e f t)
    (h : System.run c (SixDof.mk (some dt) (some x)).system s = (.ok (), u)) {b : BodyState R}
    (hb : s.bodyState e = .ok (some b)) : u.Reachable ∧ ∃ torque, u.bodyState e =
      .ok (some ((moves dt.value).foldl (fun b m => m.step b) { b with force := ⟨torque, f⟩ })) := by
  rw [run_eq_moves, Outcome.inOrder_cons_eq_ok_iff] at h
  obtain ⟨cleared, hclear, h⟩ := h
  obtain ⟨t, ht, h⟩ := Outcome.inOrder_cons_eq_ok_iff.1 h
  rw [hclear] at hx
  obtain ⟨htr, hbody⟩ := hx t ht
  have hb' := (BodyMap.run_ok (m := .clearForce) hs.valid hclear).2.2 e b hb
  obtain ⟨torque, htb⟩ := hbody _ hb'
  have hu := BodyMap.reachable_inOrder htr c (moves dt.value)
  rw [h] at hu
  exact ⟨hu, torque, (BodyMap.inOrder_ok htr.valid h).2.2 e _ htb⟩

lemma exists_runs {y : Effector R} (hs : s.Reachable) (hstep : StepsBy step y.system dt s) (h : s.WholeBodies)
    (clients : List Client) : ∃ u,
      Outcome.inOrder (clients.map fun c => System.run c (SixDof.mk step (some y.system)).system) s = (.ok (), u) := by
  induction clients generalizing s with
  | nil => exact ⟨s, rfl⟩
  | cons c clients ih =>
    obtain ⟨hfixed, hnext⟩ := hstep.run hs c
    have hmaps := run_eq_moves (V := V) dt y.system c
    obtain ⟨t, ht, hst⟩ := BodyMap.exists_inOrder hs.valid h c (.clearForce :: y.bodyMap :: moves dt.value)
    have htr := BodyMap.reachable_inOrder hs c (.clearForce :: y.bodyMap :: moves dt.value)
    have hrun : System.run c (SixDof.mk step (some y.system)).system s = (.ok (), t) := by
      rw [hfixed, hmaps]
      exact ht
    rw [ht] at htr
    rw [hrun] at hnext
    obtain ⟨u, hu⟩ := ih htr hnext (h.refills hs.valid hst)
    exact ⟨u, Outcome.inOrder_cons_eq_ok_iff.2 ⟨t, hrun, hu⟩⟩

end SixDof

lemma Effector.pushes [Scalar R] (x : Effector R) (dt : TimeStep R) (hx : ∀ row, (Wrench.ofVector (x.f row)).force = f)
    (hs : s.Reachable) (clients : List Client) : SixDof.Pushes (some dt) x.system e f clients s := by
  induction clients generalizing s with
  | nil => trivial
  | cons c clients ih =>
    refine ⟨fun u hu => x.pushed hx (BodyMap.reachable_run hs c .clearForce) hu, ih ?_⟩
    rw [SixDof.run_eq_moves]
    exact BodyMap.reachable_inOrder hs c (.clearForce :: x.bodyMap :: SixDof.moves dt.value)

end Ticks

variable {K : Type} [Field K] [LinearOrder K] [Curves K]

namespace Inertia

def push (i : Inertia K) (f : Vec3 K) : Vec3 K := if i.immovable then .zero else f.divide i.mass

lemma push_of_lt {i : Inertia K} (f : Vec3 K) (h : |i.mass| < 1e-10) : i.push f = .zero := if_pos (blocks_iff.2 h)

lemma push_of_le {i : Inertia K} (f : Vec3 K) (h : 1e-10 ≤ |i.mass|) : i.push f = f.divide i.mass :=
  if_neg (not_blocks h)

end Inertia

variable [IsStrictOrderedRing K] {a : Vec3 K} {dt : K} {m n : Nat} {b b' b'' : BodyState K}

lemma Vec3.add_scale_zero (v : Vec3 K) (k : K) : v + zero.scale k = v := by
  refine ext_along fun axis => ?_
  rw [along_add, along_scale, along_zero, zero_mul, add_zero]

namespace BodyState

structure Travels (a : Vec3 K) (dt : K) (n : Nat) (b b' : BodyState K) : Prop where
  inertia : b'.inertia = b.inertia
  linear : b'.velocity.linear = b.velocity.linear + a.scale (n * dt)
  position : b'.pose.position =
    b.pose.position + b.velocity.linear.scale (n * dt) + a.scale (n * (n + 1) / 2 * dt ^ 2)

namespace Travels

lemma refl : Travels a dt 0 b b where
  inertia := rfl
  linear := by
    refine Vec3.ext_along fun axis => ?_
    simp only [Vec3.along_add, Vec3.along_scale]
    ring
  position := by
    refine Vec3.ext_along fun axis => ?_
    simp only [Vec3.along_add, Vec3.along_scale]
    ring

lemma trans (h : Travels a dt m b b') (h' : Travels a dt n b' b'') : Travels a dt (m + n) b b'' where
  inertia := h'.inertia.trans h.inertia
  linear := by
    refine Vec3.ext_along fun axis => ?_
    rw [h'.linear, h.linear]
    simp only [Vec3.along_add, Vec3.along_scale]
    push_cast
    ring
  position := by
    refine Vec3.ext_along fun axis => ?_
    rw [h'.position, h.position, h.linear]
    simp only [Vec3.along_add, Vec3.along_scale]
    push_cast
    ring

end Travels

lemma travels_moves (b : BodyState K) (w : Wrench K) (dt : K) : Travels (b.inertia.push w.force) dt 1 b
    ((SixDof.moves dt).foldl (fun b m => m.step b) { b with force := w }) := by
  simp only [SixDof.moves, List.foldl_cons, List.foldl_nil, BodyMap.step_accelerate, BodyMap.step_moveVelocity,
    BodyMap.step_movePose]
  have hlinear : (b.velocity.integrate (b.inertia.accelerate b.pose b.velocity w) dt).linear =
      b.velocity.linear + (b.inertia.push w.force).scale dt := rfl
  refine ⟨rfl, ?_, ?_⟩
  · rw [hlinear, Nat.cast_one, one_mul]
  · refine Vec3.ext_along fun axis => ?_
    simp only [Pose.integrate, hlinear, Vec3.along_add, Vec3.along_scale]
    push_cast
    ring

end BodyState

namespace SixDof

variable {s u : Store K V} {e : EntityId} {f : Vec3 K} {step : Option (TimeStep K)} {x : System K V}

lemma travels_of_runs {dt : TimeStep K} (hs : s.Reachable) (hstep : StepsBy step x dt s) {clients : List Client}
    (hf : Pushes step x e f clients s)
    (h : Outcome.inOrder (clients.map fun c => System.run c (SixDof.mk step (some x)).system) s = (.ok (), u))
    (hb : s.bodyState e = .ok (some b)) :
    ∃ b', u.bodyState e = .ok (some b') ∧ b.Travels (b.inertia.push f) dt.value clients.length b' := by
  induction clients generalizing s b with
  | nil =>
    cases h
    exact ⟨b, hb, .refl⟩
  | cons c clients ih =>
    obtain ⟨t, ht, h⟩ := Outcome.inOrder_cons_eq_ok_iff.1 h
    dsimp only at ht
    obtain ⟨hfixed, hnext⟩ := hstep.run hs c
    obtain ⟨hpushed, hrest⟩ := hf
    rw [ht] at hnext hrest
    obtain ⟨htr, torque, htb⟩ := run_pushed hs hpushed (hfixed.symm.trans ht) hb
    have hfirst := b.travels_moves ⟨torque, f⟩ dt.value
    obtain ⟨b', hb', htravels⟩ := ih htr hnext hrest h htb
    rw [hfirst.inertia] at htravels
    rw [List.length_cons, Nat.add_comm]
    exact ⟨b', hb', hfirst.trans htravels⟩

/-- Under a force that is the same in all ticks a body moves as if the whole force of a tick acted at its start. A
body that cannot be moved keeps its velocity. Ticks with a map as effector do not fail where all bodies are whole. -/
theorem translation_of_runs {dt : TimeStep K} (hs : s.Reachable) (hstep : StepsBy step x dt s) {clients : List Client}
    (hf : Pushes step x e f clients s) (hb : s.bodyState e = .ok (some b)) :
    let runs := Outcome.inOrder (clients.map fun c => System.run c (SixDof.mk step (some x)).system) s
    let n : K := clients.length
    let accel := f.divide b.inertia.mass
    (∀ y : Effector K, x = y.system → s.WholeBodies → runs.1 = .ok ()) ∧
    (runs.1 = .ok () → ∃ b', runs.2.bodyState e = .ok (some b') ∧
      (1e-10 ≤ |b.inertia.mass| →
        b'.velocity.linear = b.velocity.linear + accel.scale (n * dt.value) ∧
        b'.pose.position = b.pose.position + b.velocity.linear.scale (n * dt.value) +
          accel.scale (n * (n + 1) / 2 * dt.value ^ 2)) ∧
      (|b.inertia.mass| < 1e-10 →
        b'.velocity.linear = b.velocity.linear ∧
        b'.pose.position = b.pose.position + b.velocity.linear.scale (n * dt.value))) := by
  intro runs n accel
  constructor
  · rintro y rfl hbodies
    obtain ⟨u, hu⟩ := exists_runs hs hstep hbodies clients
    exact congrArg Prod.fst hu
  · intro hok
    have hruns : runs = (.ok (), runs.2) := by rw [← hok]
    obtain ⟨b', hb', htravels⟩ := travels_of_runs hs hstep hf hruns hb
    refine ⟨b', hb', fun hmass => ?_, fun hmass => ?_⟩
    · rw [Inertia.push_of_le f hmass] at htravels
      exact ⟨htravels.linear, htravels.position⟩
    · rw [Inertia.push_of_lt f hmass] at htravels
      have hlinear := htravels.linear
      have hposition := htravels.position
      rw [Vec3.add_scale_zero] at hlinear hposition
      exact ⟨hlinear, hposition⟩

noncomputable def drone : BodyState ℝ where
  pose := ⟨⟨0, 0, 3 / 5, 4 / 5⟩, ⟨1, 0, 0⟩⟩
  velocity := ⟨⟨1, 1, 0⟩, ⟨0, 3, 0⟩⟩
  inertia := ⟨2, ⟨1, 2, 3⟩⟩
  acceleration := .zero
  force := ⟨.zero, ⟨9, 9, 9⟩⟩

noncomputable def droneChanges : List (Change ℝ Tokens) :=
  [.spawn (Body.mk drone.pose drone.velocity drone.inertia).bundle, .write .force [⟨0⟩] [drone.force.toVector]]

lemma bodyState_drone : (Store.empty.applyAll droneChanges).bodyState ⟨0⟩ = .ok (some drone) := by
  refine Store.bodyState_eq_some_iff.2 fun p => ?_
  cases p <;> rfl

lemma wholeBodies_drone : (Store.empty.applyAll droneChanges).WholeBodies where
  agrees p := Store.checkSchema_eq_ok_iff.1 (by cases p <;> decide +kernel)
  holds {e p} hp q := by
    have hall : ∀ table ∈ (Store.empty.applyAll droneChanges).tables, q.schema.id ∈ table.schemas.map Schema.id := by
      cases q <;> decide +kernel
    obtain ⟨table, ht, _, he⟩ := hp
    exact ⟨table, ht, hall table ht, he⟩

theorem translation_of_runs_drone : ∃ (s u : Store ℝ Tokens) (dt : TimeStep ℝ) (x : Effector ℝ) (clients : List Client)
    (b b' : BodyState ℝ), s.Reachable ∧ StepsBy (some dt) x.system dt s ∧ clients.length = 3 ∧ dt.value = 1 / 2 ∧
    Pushes (some dt) x.system ⟨0⟩ ⟨4, 0, -2⟩ clients s ∧ s.bodyState ⟨0⟩ = .ok (some b) ∧ s.WholeBodies ∧
    1e-10 ≤ |b.inertia.mass| ∧ b.force.force = ⟨9, 9, 9⟩ ∧
    Outcome.inOrder (clients.map fun c => System.run c (SixDof.mk (some dt) (some x.system)).system) s = (.ok (), u) ∧
    u.bodyState ⟨0⟩ = .ok (some b') ∧ b'.velocity.linear = ⟨3, 3, -3 / 2⟩ ∧
    b'.pose.position = ⟨4, 9 / 2, -3 / 2⟩ := by
  let s : Store ℝ Tokens := Store.empty.applyAll droneChanges
  let dt : TimeStep ℝ := ⟨1 / 2, decide_eq_true (by norm_num), rfl⟩
  let clients : List Client := [.default, .default, .default]
  let answer : Row ℝ [.worldVel] → Schema.force.Value ℝ :=
    fun (vel, _) => (Wrench.mk (Motion.ofVector vel).angular ⟨4, 0, -2⟩).toVector
  let lift : Effector ℝ := ⟨"lift", [.velocity], List.cons_ne_nil _ _, answer⟩
  let runs := Outcome.inOrder (clients.map fun c => System.run c (SixDof.mk (some dt) (some lift.system)).system) s
  have hs : s.Reachable := ⟨droneChanges, rfl⟩
  have hpushes : Pushes (some dt) lift.system ⟨0⟩ ⟨4, 0, -2⟩ clients s := lift.pushes dt (fun _ => rfl) hs clients
  have hmass : 1e-10 ≤ |drone.inertia.mass| := by norm_num [drone]
  obtain ⟨hall, hmoved⟩ := translation_of_runs hs (.inl rfl) hpushes bodyState_drone
  have hok : runs.1 = .ok () := hall lift rfl wholeBodies_drone
  have hruns : runs = (.ok (), runs.2) := by rw [← hok]
  obtain ⟨b', hb', hfast, _⟩ := hmoved hok
  obtain ⟨hlinear, hposition⟩ := hfast hmass
  refine ⟨s, runs.2, dt, lift, clients, drone, b', hs, .inl rfl, rfl, rfl, hpushes, bodyState_drone, wholeBodies_drone,
    hmass, rfl, hruns, hb', ?_, ?_⟩
  · rw [hlinear]
    norm_num [drone, dt, clients, Vec3.scale, Vec3.divide, Vec3.mk_add]
  · rw [hposition]
    norm_num [drone, dt, clients, Vec3.scale, Vec3.divide, Vec3.mk_add]

end SixDof

end ColumnSim
