import ColumnSim.Proofs.Assembly
import ColumnSim.Proofs.Failure

namespace ColumnSim

variable {R : Type} {V : AssetKind → Type} {error : Error} {c : Client}

lemma Outcome.inOrder_eq_error {S A : Type} {f : A → S → Outcome S Unit} {xs : List A} {s u : S}
    (h : inOrder (xs.map f) s = (.error error, u)) : ∃ front x back t,
      xs = front ++ x :: back ∧ inOrder (front.map f) s = (.ok (), t) ∧ f x t = (.error error, u) := by
  induction xs generalizing s with
  | nil => cases h
  | cons x xs ih =>
    rw [List.map_cons, inOrder] at h
    rcases hx : f x s with ⟨e | _, t⟩
    · rw [hx] at h
      cases h
      exact ⟨[], x, xs, s, rfl, rfl, hx⟩
    · rw [hx] at h
      obtain ⟨front, y, back, v, rfl, hfront, hy⟩ := ih h
      refine ⟨x :: front, y, back, v, rfl, ?_, hy⟩
      rw [List.map_cons, inOrder, hx]
      exact hfront

namespace Store

variable {s u : Store R V} {change : Change R V} {changes : List (Change R V)}

def perform (s : Store R V) (change : Change R V) : Outcome (Store R V) Unit :=
  ((s.apply change).1.map fun _ => (), (s.apply change).2)

lemma spawn_of_frozen (hf : s.frozen = true) (b : Bundle R) : s.spawn b = .error (.frozen b.name.text) := by
  rw [spawn, check, hf]
  rfl

lemma perform_eq_error (hf : s.frozen = true) (h : s.perform change = (.error error, u)) : u = s := by
  obtain ⟨hr, rfl⟩ := Prod.mk.inj h
  have hatomic : ∀ {A : Type} (x : Except Error (A × Store R V)),
      (Outcome.atomic s x).1.map (fun _ => ()) = .error error → (Outcome.atomic s x).2 = s := by
    intro A x hx
    cases x with
    | error e => rfl
    | ok p => cases hx
  cases change with
  | spawn b => exact hatomic _ hr
  | spawnNamed b name => exact hatomic _ hr
  | spawnBatch bs =>
    -- Only a batch is more than one step, and a frozen store does not accept its first bundle.
    cases bs with
    | nil => cases hr
    | cons b bs =>
      simp only [apply, spawnBatch, spawn_of_frozen hf]
  | attach e b => exact hatomic _ hr
  | write schema es vs => exact hatomic _ hr
  | insertAsset k content => cases hr
  | freeze => cases hr

lemma inOrder_perform (h : Outcome.inOrder (changes.map fun change s => s.perform change) s = (.ok (), u)) :
    u = s.applyAll changes := by
  induction changes generalizing s with
  | nil =>
    cases h
    rfl
  | cons change changes ih =>
    obtain ⟨t, hs, h⟩ := Outcome.inOrder_cons_eq_ok_iff.1 h
    obtain ⟨_, rfl⟩ := Prod.mk.inj hs
    exact ih h

lemma Step.keeps_frozen {event : Event R V} (h : Step s event u) (hf : s.frozen = true) : u.frozen = true := by
  cases h with
  | spawned h => exact absurd hf (by simp [(spawn_eq_ok_iff.1 h).1.unfrozen])
  | attached h => exact absurd hf (by simp [(attach_eq_ok_iff.1 h).1.accepts.unfrozen])
  | written h =>
    obtain ⟨_, rfl⟩ := eq_of_outline (outline_write h)
    exact hf
  | named => exact hf
  | added => exact hf
  | frozen => rfl

lemma Run.keeps_frozen {events : List (Event R V)} (h : Run s events u) (hf : s.frozen = true) : u.frozen = true := by
  induction h with
  | nil => exact hf
  | cons h _ ih => exact ih (h.keeps_frozen hf)

end Store

def Procedure.Performs (p : Procedure R V) (changes : List (Change R V)) : Prop :=
  ∀ c s, p.body c s = Outcome.inOrder (changes.map fun change s => s.perform change) s

namespace Simulation

variable {sim after : Simulation R V}

lemma finished_iff : sim.finished = true ↔ ∃ bound, sim.limit = some bound ∧ bound ≤ sim.ticks := by
  cases h : sim.limit <;> simp [finished, h]

lemma run_refused {bound : Nat} (h : sim.limit = some bound) (hle : bound ≤ sim.ticks) (c : Client) :
    sim.run c = (.error (.tickLimit bound), sim) := by
  simp [run, h, hle, Option.filter]

lemma run_eq_ok (h : sim.run c = (.ok (), after)) : ∃ store,
    System.runStages c sim.stages sim.store = (.ok (), store) ∧
      after = { sim with store, ticks := sim.ticks + 1 } := by
  rw [run] at h
  split at h
  · cases h
  · split at h
    · rename_i store hstages
      cases h
      exact ⟨store, hstages, rfl⟩
    · cases h

lemma run_eq_error (h : sim.run c = (.error error, after)) :
    (∃ limit, sim.limit = some limit ∧ limit ≤ sim.ticks ∧ error = .tickLimit limit ∧ after = sim) ∨
      ∃ store, System.runStages c sim.stages sim.store = (.error error, store) ∧ after = { sim with store } := by
  rw [run] at h
  split at h
  · rename_i limit hlimit
    obtain ⟨hlimit, hle⟩ := Option.filter_eq_some_iff.1 hlimit
    cases h
    exact .inl ⟨limit, hlimit, by simpa using hle, rfl, rfl⟩
  · split at h
    · cases h
    · rename_i store hstages
      cases h
      exact .inr ⟨store, hstages, rfl⟩

lemma run_eq_or (sim : Simulation R V) (c : Client) : (sim.run c).2 = sim ∨
    ∃ ticks, (sim.run c).2 = { sim with store := (System.runStages c sim.stages sim.store).2, ticks } := by
  rcases h : sim.run c with ⟨error | _, after⟩
  · rcases run_eq_error h with ⟨_, _, _, _, rfl⟩ | ⟨store, hstages, rfl⟩
    · exact .inl rfl
    · rw [hstages]
      exact .inr ⟨sim.ticks, rfl⟩
  · obtain ⟨store, hstages, rfl⟩ := run_eq_ok h
    rw [hstages]
    exact .inr ⟨sim.ticks + 1, rfl⟩

/-- A tick that fails is not counted, and what the stages in front of the failing one wrote stays. Of the failing stage
there stays what its leaves in front of the failing one wrote, and nothing of a map or fold that failed. A procedure
that failed keeps the changes in front of the failing one. -/
theorem run_stage_failed (h : sim.run c = (.error error, after)) (hlimit : sim.finished = false) :
    after = { sim with store := after.store } ∧
    ∃ front stage back s, sim.stages = front ++ stage :: back ∧
      System.runStages c front sim.store = (.ok (), s) ∧ System.run c stage s = (.error error, after.store) ∧
      (∀ l : Leaf R V, stage = l.system → l.Plain → after.store = s) ∧
      ∃ done l rest t, stage.leaves = done ++ l :: rest ∧
        Outcome.inOrder (done.map fun l => System.run c l.system) s = (.ok (), t) ∧
        System.run c l.system t = (.error error, after.store) ∧
        (l.Plain → after.store = t) ∧
        ∀ p changes, l = .procedure p → p.Performs changes → ∃ kept change lost, changes = kept ++ change :: lost ∧
          (t.applyAll kept).perform change = (.error error, after.store) ∧
          (t.frozen = true → after.store = t.applyAll kept) := by
  rcases run_eq_error h with ⟨limit, hl, hle, _, _⟩ | ⟨store, hstages, rfl⟩
  · exact absurd (finished_iff.2 ⟨limit, hl, hle⟩) (by simp [hlimit])
  · -- The run is split at the first stage that fails, and the run of this stage at the first leaf that fails.
    rw [System.runStages_eq_inOrder] at hstages
    obtain ⟨front, stage, back, s, hsplit, hfront, hstage⟩ := Outcome.inOrder_eq_error hstages
    refine ⟨rfl, front, stage, back, s, hsplit, ?_, hstage, ?_, ?_⟩
    · rw [System.runStages_eq_inOrder, hfront]
    · rintro l rfl hl
      exact hl.eq_of_error hstage
    · have hleaves := hstage
      rw [System.run_eq_leaves] at hleaves
      obtain ⟨done, l, rest, t, hl, hdone, hrun⟩ := Outcome.inOrder_eq_error hleaves
      refine ⟨done, l, rest, t, hl, hdone, hrun, fun hp => hp.eq_of_error hrun, ?_⟩
      rintro p changes rfl hp
      have hbody : p.body c t = (.error error, store) := hrun
      rw [hp] at hbody
      obtain ⟨kept, change, lost, u, hchanges, hkept, hchange⟩ := Outcome.inOrder_eq_error hbody
      obtain rfl := Store.inOrder_perform hkept
      refine ⟨kept, change, lost, hchanges, hchange, fun hf => ?_⟩
      exact Store.perform_eq_error ((t.applyAll_run kept).keeps_frozen hf) hchange

theorem run_stage_failed_cold : ∃ sim after : Simulation Float Tokens,
    sim.run .default = (.error (.missingOutput ⟨0⟩ "cold"), after) ∧ sim.finished = false ∧ sim.stages.length = 2 ∧
    after.ticks = sim.ticks ∧ after.store.get (.scalar "heat" .f64) ⟨0⟩ = .ok (some #v[2]) ∧
    ∃ front stage back s, sim.stages = front ++ stage :: back ∧
      System.runStages .default front sim.store = (.ok (), s) ∧ after.store = s := by
  let heat : Schema := .scalar "heat" .f64
  let rock : Bundle Float := (Bundle.empty "rock").add heat #v[1]
  let warm : MapSystem Float := ⟨"warm", [heat], heat, fun _ => #v[2]⟩
  let cool : MapSystem Float := ⟨"cool", [heat], .scalar "cold" .f64, fun (v, _) => v⟩
  let sim : Simulation Float Tokens :=
    ⟨(Store.empty.applyAll [.spawn rock]).freeze, [.map warm, .map cool], ⟨0⟩, 0, some 9⟩
  have hresult : (sim.run .default).1 = .error (.missingOutput ⟨0⟩ "cold") := by decide +kernel
  have hheat : (sim.run .default).2.store.get heat ⟨0⟩ = .ok (some #v[2]) := by decide +kernel
  obtain ⟨after, hafter⟩ : ∃ after, after = (sim.run .default).2 := ⟨_, rfl⟩
  have hrun : sim.run .default = (.error (.missingOutput ⟨0⟩ "cold"), after) := Prod.ext hresult hafter.symm
  obtain ⟨hkept, front, stage, back, s, hstages, hfront, _, hplain, _⟩ := run_stage_failed hrun rfl
  refine ⟨sim, after, hrun, rfl, rfl, (congrArg ticks hkept :), hafter ▸ hheat, front, stage, back, s, hstages, hfront,
    ?_⟩
  have hm : stage ∈ sim.stages := by
    rw [hstages]
    exact List.mem_append_right _ (List.mem_cons_self ..)
  rcases List.mem_pair.1 hm with rfl | rfl
  · exact hplain (.map warm) rfl trivial
  · exact hplain (.map cool) rfl trivial

theorem run_stage_failed_midway : ∃ (b : Builder Float Tokens) (system stage : System Float Tokens)
    (sim after : Simulation Float Tokens) (front : List (System Float Tokens)) (s : Store Float Tokens),
    b.store.Reachable ∧ b.build system false = .ok sim ∧
    sim.stages = front ++ [stage] ∧ System.runStages .default front sim.store = (.ok (), s) ∧
    (System.run .default stage s).1 = .error (.missingOutput ⟨0⟩ "cold") ∧
    sim.run .default = (.error (.missingOutput ⟨0⟩ "cold"), after) ∧
    s.get (.scalar "heat" .f64) ⟨0⟩ = .ok (some #v[1]) ∧
    after.store.get (.scalar "heat" .f64) ⟨0⟩ = .ok (some #v[2]) := by
  let heat : Schema := .scalar "heat" .f64
  let rock : Bundle Float := (Bundle.empty "rock").add heat #v[1]
  let warm : System Float Tokens := .map ⟨"warm", [heat], heat, fun _ => #v[2]⟩
  let cool : System Float Tokens := .map ⟨"cool", [heat], .scalar "cold" .f64, fun (v, _) => v⟩
  let stage : System Float Tokens := .pipeline [warm, cool]
  let changes : List (Change Float Tokens) := [.spawn rock]
  let b : Builder Float Tokens := ⟨Store.empty.applyAll changes, none⟩
  have hs : b.store.Reachable := ⟨changes, rfl⟩
  let front (sim : Simulation Float Tokens) := System.runStages .default [.map incrementTick] sim.store
  have hfront : (b.build (.pipeline [stage]) false).map (fun sim => ((front sim).1, (front sim).2.get heat ⟨0⟩)) =
      .ok (.ok (), .ok (some #v[1])) := by decide +kernel
  have hstage : (b.build (.pipeline [stage]) false).map (fun sim => (System.run .default stage (front sim).2).1) =
      .ok (.error (.missingOutput ⟨0⟩ "cold")) := by decide +kernel
  have hrun : (b.build (.pipeline [stage]) false).map
      (fun sim => ((sim.run .default).1, (sim.run .default).2.store.get heat ⟨0⟩)) =
      .ok (.error (.missingOutput ⟨0⟩ "cold"), .ok (some #v[2])) := by decide +kernel
  obtain ⟨sim, h, hsim⟩ := map_eq_ok_iff.1 hfront
  rw [h] at hstage hrun
  obtain ⟨hdone, hone⟩ := Prod.mk.inj hsim
  obtain ⟨herror, htwo⟩ := Prod.mk.inj (Except.ok.inj hrun)
  obtain ⟨_, _, _, _, ha⟩ := Builder.exists_assembles_of_built hs.valid (.inl h)
  exact ⟨b, _, stage, sim, (sim.run .default).2, [.map incrementTick], (front sim).2, hs, h, ha.stages,
    Prod.ext hdone rfl, Except.ok.inj hstage, Prod.ext herror rfl, hone, htwo⟩

end Simulation

end ColumnSim
