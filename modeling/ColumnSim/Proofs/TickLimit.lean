import ColumnSim.Proofs.Tick

namespace ColumnSim

namespace Simulation

variable {R : Type} {V : AssetKind → Type} {sim later : Simulation R V} {c : Client} {limit : Option Nat}
  {n m bound : Nat}

inductive Call
  | run (c : Client)
  | runTicks (c : Client) (n : Nat)

def call (sim : Simulation R V) : Call → Outcome (Simulation R V) Unit
  | .run c => sim.run c
  | .runTicks c n => sim.runTicks c n

def callAll (sim : Simulation R V) (calls : List Call) : Simulation R V :=
  calls.foldl (fun sim call => (sim.call call).2) sim

inductive Completes (c : Client) : Nat → Simulation R V → Simulation R V → Prop
  | zero {sim : Simulation R V} : Completes c 0 sim sim
  | succ {n : Nat} {sim later : Simulation R V} {store : Store R V}
    (h : System.runStages c sim.stages sim.store = (.ok (), store))
    (hrest : Completes c n { sim with store, ticks := sim.ticks + 1 } later) : Completes c (n + 1) sim later

def Steady (sim : Simulation R V) (c : Client) (n : Nat) : Prop :=
  ∀ k later, k < n → Completes c k sim later → later.finished = false →
    ∃ store, System.runStages c later.stages later.store = (.ok (), store)

structure Within (limit : Option Nat) (sim : Simulation R V) : Prop where
  limit_eq : sim.limit = limit
  ticks_le : ∀ bound ∈ limit, sim.ticks ≤ bound

lemma run_of_stages {store : Store R V} (hf : sim.finished = false)
    (h : System.runStages c sim.stages sim.store = (.ok (), store)) :
    sim.run c = (.ok (), { sim with store, ticks := sim.ticks + 1 }) := by
  have hnone : sim.limit.filter (· ≤ sim.ticks) = none := by
    cases hlimit : sim.limit <;> simp_all [finished, Option.filter]
  rw [run, hnone, h]

lemma Within.finished_iff (h : Within limit sim) : sim.finished = true ↔ limit = some sim.ticks := by
  rw [Simulation.finished_iff, h.limit_eq]
  constructor
  · rintro ⟨bound, rfl, hle⟩
    rw [Nat.le_antisymm (h.ticks_le bound rfl) hle]
  · exact fun heq => ⟨sim.ticks, heq, Nat.le_refl _⟩

lemma Within.run (h : Within limit sim) (c : Client) : Within limit (sim.run c).2 := by
  rcases hrun : sim.run c with ⟨error | _, later⟩
  · rcases run_eq_error hrun with ⟨_, _, _, _, rfl⟩ | ⟨store, _, rfl⟩
    · exact h
    · exact ⟨h.limit_eq, h.ticks_le⟩
  · obtain ⟨store, _, rfl⟩ := run_eq_ok hrun
    refine ⟨h.limit_eq, fun bound hb => Nat.lt_of_not_le fun hle => ?_⟩
    rw [run_refused (h.limit_eq.trans hb) hle] at hrun
    cases hrun

lemma Within.runTicks (h : Within limit sim) (c : Client) (n : Nat) : Within limit (sim.runTicks c n).2 := by
  induction n generalizing sim with
  | zero => exact h
  | succ n ih =>
    have hrun := h.run c
    rw [Simulation.runTicks]
    rcases heq : sim.run c with ⟨_ | _, later⟩
    · rwa [heq] at hrun
    · rw [heq] at hrun
      exact ih hrun

lemma Within.callAll (h : Within limit sim) (calls : List Call) : Within limit (sim.callAll calls) := by
  induction calls generalizing sim with
  | nil => exact h
  | cons call calls ih =>
    apply ih
    cases call with
    | run c => exact h.run c
    | runTicks c n => exact h.runTicks c n

lemma runTicks_add (sim : Simulation R V) (c : Client) (n m : Nat) :
    sim.runTicks c (n + m) = (sim.runTicks c n).andThen fun later => later.runTicks c m := by
  induction n generalizing sim with
  | zero => rw [Nat.zero_add, runTicks, Outcome.andThen]
  | succ n ih => rw [Nat.succ_add, runTicks, runTicks, Outcome.andThen_assoc, funext ih]

lemma runTicks_refused (h : sim.limit = some bound) (hle : bound ≤ sim.ticks) :
    sim.runTicks c (n + 1) = (.error (.tickLimit bound), sim) := by
  rw [runTicks, run_refused h hle, Outcome.andThen]

lemma Completes.limit_eq (h : Completes c n sim later) : later.limit = sim.limit := by
  induction h with
  | zero => rfl
  | succ _ _ ih => exact ih

lemma Completes.ticks_eq (h : Completes c n sim later) : later.ticks = sim.ticks + n := by
  induction h with
  | zero => rfl
  | succ _ _ ih => exact ih.trans (Nat.succ_add_eq_add_succ _ _)

lemma Steady.mono (h : sim.Steady c m) (hle : n ≤ m) : sim.Steady c n :=
  fun k later hk => h k later (Nat.lt_of_lt_of_le hk hle)

lemma Steady.exists_completes (h : sim.Steady c n) (hroom : ∀ bound ∈ sim.limit, sim.ticks + n ≤ bound) :
    ∃ later, sim.runTicks c n = (.ok (), later) ∧ Completes c n sim later := by
  induction n generalizing sim with
  | zero => exact ⟨sim, rfl, .zero⟩
  | succ n ih =>
    have hf : sim.finished = false := by
      rw [← Bool.not_eq_true, finished_iff]
      rintro ⟨bound, hb, hle⟩
      have := hroom bound hb
      omega
    obtain ⟨store, hstages⟩ := h 0 sim (Nat.succ_pos n) .zero hf
    have hnext : Steady { sim with store, ticks := sim.ticks + 1 } c n := fun k later hk hcompletes =>
      h (k + 1) later (Nat.succ_lt_succ hk) (.succ hstages hcompletes)
    obtain ⟨later, hrun, hcompletes⟩ := ih hnext fun bound hb =>
      (Nat.succ_add_eq_add_succ sim.ticks n).symm ▸ hroom bound hb
    refine ⟨later, ?_, .succ hstages hcompletes⟩
    rw [runTicks, run_of_stages hf hstages, Outcome.andThen, hrun]

lemma Within.runTicks_steady (h : Within (some bound) sim) (hsteady : sim.Steady c n) : ∃ later,
    sim.runTicks c n = (if n ≤ bound - sim.ticks then .ok () else .error (.tickLimit bound), later) ∧
      Completes c (min n (bound - sim.ticks)) sim later := by
  have hle := h.ticks_le bound rfl
  have hroom : ∀ k ≤ bound - sim.ticks, ∀ b ∈ sim.limit, sim.ticks + k ≤ b := by
    intro k hk b hb
    rw [h.limit_eq] at hb
    cases hb
    omega
  by_cases hn : n ≤ bound - sim.ticks
  · rw [if_pos hn, Nat.min_eq_left hn]
    exact hsteady.exists_completes (hroom n hn)
  · -- The ticks up to the limit succeed, and the next one is refused.
    obtain ⟨k, rfl⟩ : ∃ k, n = bound - sim.ticks + (k + 1) := ⟨n - (bound - sim.ticks) - 1, by omega⟩
    obtain ⟨later, hrun, hcompletes⟩ :=
      (hsteady.mono (Nat.le_add_right _ _)).exists_completes (hroom _ (Nat.le_refl _))
    have hticks : bound ≤ later.ticks := by
      rw [hcompletes.ticks_eq]
      omega
    rw [if_neg hn, Nat.min_eq_right (Nat.le_of_not_le hn)]
    refine ⟨later, ?_, hcompletes⟩
    rw [runTicks_add, hrun, Outcome.andThen, runTicks_refused (hcompletes.limit_eq.trans h.limit_eq) hticks]

end Simulation

namespace Builder

variable {R : Type} {V : AssetKind → Type} [Scalar R] {b : Builder R V} {system : System R V} {dt : TimeStep R}
  {limit : Option Nat} {logs : Bool} {sim later : Simulation R V}

theorem runTicks_of_buildWith (hs : b.store.Reachable) (h : b.buildWith system dt limit logs = .ok sim)
    (calls : List Simulation.Call) (hlater : sim.callAll calls = later) :
    (∀ bound ∈ limit, later.ticks ≤ bound) ∧
    (later.finished = true ↔ limit = some later.ticks) ∧
    (∀ bound, limit = some bound → later.finished = true → ∀ c, later.run c = (.error (.tickLimit bound), later)) ∧
    (∀ c n m, later.runTicks c (n + m) = (later.runTicks c n).andThen fun next => next.runTicks c m) ∧
    ∀ c n, later.Steady c n →
      (∀ bound, limit = some bound → ∃ last,
        later.runTicks c n = (if n ≤ bound - later.ticks then .ok () else .error (.tickLimit bound), last) ∧
          Simulation.Completes c (min n (bound - later.ticks)) later last) ∧
      (limit = none → ∃ last, later.runTicks c n = (.ok (), last) ∧ Simulation.Completes c n later last) := by
  obtain ⟨_, _, ha⟩ := exists_assembles hs.valid h
  have hstart : Simulation.Within limit sim := ⟨ha.limit, fun bound _ => ha.ticks ▸ Nat.zero_le bound⟩
  have hwithin := hstart.callAll calls
  rw [hlater] at hwithin
  refine ⟨hwithin.ticks_le, hwithin.finished_iff, fun bound hb hf c => ?_, later.runTicks_add, fun c n hsteady => ?_⟩
  · have hticks := hwithin.finished_iff.1 hf
    rw [hb] at hticks
    cases hticks
    exact Simulation.run_refused (hwithin.limit_eq.trans hb) (Nat.le_refl _) c
  · refine ⟨fun bound hb => ?_, fun hnone => hsteady.exists_completes fun bound hb => ?_⟩
    · rw [hb] at hwithin
      exact hwithin.runTicks_steady hsteady
    · rw [hwithin.limit_eq, hnone] at hb
      cases hb

theorem runTicks_of_buildWith_three : ∃ (b : Builder Float Tokens) (dt : TimeStep Float) (system : System Float Tokens)
    (sim later last : Simulation Float Tokens), b.store.Reachable ∧ b.buildWith system dt (some 3) true = .ok sim ∧
    sim.callAll [.run .default, .runTicks .default 1] = later ∧ later.ticks = 2 ∧
    later.store.get (.scalar "heat" .f64) ⟨0⟩ = .ok (some #v[3]) ∧ later.Steady .default 5 ∧
    later.runTicks .default 5 = (.error (.tickLimit 3), last) ∧ Simulation.Completes .default 1 later last ∧
    last.store.get (.scalar "heat" .f64) ⟨0⟩ = .ok (some #v[4]) := by
  let heat : Schema := .scalar "heat" .f64
  let rock : Bundle Float := (Bundle.empty "rock").add heat #v[1]
  let changes : List (Change Float Tokens) := [.spawn rock]
  let b : Builder Float Tokens := ⟨Store.empty.applyAll changes, none⟩
  let dt : TimeStep Float := ⟨0.125, by decide +kernel, by decide +kernel⟩
  let warm : System Float Tokens :=
    .map ⟨"warm", [heat], heat, fun (v, _) => Schema.pack (Schema.unpack v + (1 : Float))⟩
  have hs : b.store.Reachable := ⟨changes, rfl⟩
  have hbuild : (b.buildWith warm dt (some 3) true).map (fun sim =>
      let later := sim.callAll [.run .default, .runTicks .default 1]
      (later.limit, later.ticks, (System.runStages .default later.stages later.store).1)) =
      .ok (some 3, 2, .ok ()) := by decide +kernel
  have hheat : (b.buildWith warm dt (some 3) true).map (fun sim =>
      let later := sim.callAll [.run .default, .runTicks .default 1]
      (later.store.get heat ⟨0⟩, (later.runTicks .default 5).2.store.get heat ⟨0⟩)) =
      .ok (.ok (some #v[3]), .ok (some #v[4])) := by decide +kernel
  obtain ⟨sim, h, hsim⟩ := map_eq_ok_iff.1 hbuild
  obtain ⟨later, hlater⟩ : ∃ later, sim.callAll [.run .default, .runTicks .default 1] = later := ⟨_, rfl⟩
  rw [h] at hheat
  obtain ⟨hwarm, hwarmer⟩ := Prod.mk.inj (Except.ok.inj hheat)
  rw [hlater] at hsim hwarm hwarmer
  obtain ⟨hlimit, hsim⟩ := Prod.mk.inj hsim
  obtain ⟨hticks, hstages⟩ := Prod.mk.inj hsim
  have hsteady : later.Steady .default 5 := by
    intro k next _ hcompletes hf
    -- Only one tick is left before the limit.
    have hroom : ¬3 ≤ next.ticks := fun hle =>
      absurd (Simulation.finished_iff.2 ⟨3, hcompletes.limit_eq.trans hlimit, hle⟩) (by simp [hf])
    rw [hcompletes.ticks_eq, hticks] at hroom
    obtain rfl : k = 0 := by omega
    cases hcompletes
    exact ⟨_, Prod.ext hstages rfl⟩
  obtain ⟨_, _, _, _, hmany⟩ := runTicks_of_buildWith hs h _ hlater
  obtain ⟨last, hrun, hcompletes⟩ := (hmany .default 5 hsteady).1 3 rfl
  rw [hticks] at hrun hcompletes
  rw [hrun] at hwarmer
  exact ⟨b, dt, warm, sim, later, last, hs, h, hlater, hticks, hwarm, hsteady, hrun, hcompletes, hwarmer⟩

end Builder

end ColumnSim
