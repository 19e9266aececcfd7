import ColumnSim.Proofs.Assembly
import ColumnSim.Proofs.Leaves

namespace ColumnSim

variable {R : Type} {V : AssetKind → Type} {schema : Schema}

def Simulation.declared (sim : Simulation R V) : List Schema :=
  (System.pipeline sim.stages).leaves.flatMap fun l => l.system.referencedInputs

lemma Simulation.exists_first {sim : Simulation R V} (hm : schema ∈ sim.declared) :
    ∃ first ∈ (System.pipeline sim.stages).referencedInputs,
      sim.declared.find? (·.id = schema.id) = some first ∧ first.id = schema.id := by
  rw [System.merges_referencedInputs.pipeline_eq]
  exact Schema.exists_first_of_mem hm

namespace Builder

variable [Scalar R] {b : Builder R V} {system : System R V} {dt : Option R} {limit : Option Nat} {logs : Bool}
  {sim : Simulation R V}

lemma assemble_registers (hs : b.store.Valid) (h : b.assemble system dt limit logs = .ok sim) :
    ∀ schema ∈ (System.pipeline sim.stages).referencedInputs, sim.store.RegistersAs schema := by
  obtain ⟨u, v, ha⟩ := exists_assembles hs h
  exact ha.registers

/-- Of all declarations of a component the build checks the first. It checks them all exactly if they agree. -/
theorem build_registers_first (hs : b.store.Reachable)
    (h : b.build system logs = .ok sim ∨ ∃ dt limit, b.buildWith system dt limit logs = .ok sim) :
    (∀ schema ∈ sim.declared, ∃ first, sim.declared.find? (·.id = schema.id) = some first ∧
      sim.store.RegistersAs first) ∧
    ((∀ schema ∈ sim.declared, sim.store.RegistersAs schema) ↔
      ∀ x ∈ sim.declared, ∀ y ∈ sim.declared, x.id = y.id → x.layout = y.layout) := by
  have hassemble : ∃ dt limit, b.assemble system dt limit logs = .ok sim := by
    rcases h with h | ⟨dt, limit, h⟩
    · exact ⟨none, none, h⟩
    · exact ⟨some dt.value, limit, h⟩
  obtain ⟨dt, limit, hok⟩ := hassemble
  have hregisters := assemble_registers hs.valid hok
  refine ⟨fun schema hm => ?_, fun hall x hx y hy hid => ?_, fun hagree schema hm => ?_⟩
  · obtain ⟨first, hfirst, hfound, _⟩ := Simulation.exists_first hm
    exact ⟨first, hfound, hregisters first hfirst⟩
  · exact (hall x hx).layout_eq (hall y hy) hid
  · obtain ⟨first, hfirst, hfound, hid⟩ := Simulation.exists_first hm
    have hl := hagree first (List.mem_of_find?_eq_some hfound) schema hm hid
    exact (hregisters first hfirst).congr hid hl

theorem build_registers_first_heat : ∃ (b : Builder Float Tokens) (system : System Float Tokens)
    (sim : Simulation Float Tokens), b.store.Reachable ∧ b.build system false = .ok sim ∧
      sim.declared = [.tick, .scalar "heat" .f64, .scalar "heat" .f64] ∧
      ∀ schema ∈ sim.declared, sim.store.RegistersAs schema := by
  let heat : Schema := .scalar "heat" .f64
  let rock : Bundle Float := (Bundle.empty "rock").add heat #v[1]
  let globals : Globals Float := ⟨0, 1⟩
  let changes : List (Change Float Tokens) := [.spawn globals.bundle, .spawn rock]
  let b : Builder Float Tokens := ⟨Store.empty.applyAll changes, some ⟨0⟩⟩
  let cool : System Float Tokens := .map ⟨"cool", [heat], heat, fun (v, _) => v⟩
  have hs : b.store.Reachable := ⟨changes, rfl⟩
  have hdeclared : (b.build (cool.pipe cool) false).map Simulation.declared = .ok [.tick, heat, heat] := by
    decide +kernel
  cases h : b.build (cool.pipe cool) false with
  | error e => rw [h] at hdeclared; cases hdeclared
  | ok sim =>
    rw [h] at hdeclared
    have hsame : ∀ x ∈ [Schema.tick, heat, heat], ∀ y ∈ [Schema.tick, heat, heat],
        x.id = y.id → x.layout = y.layout := by
      decide +kernel
    have hd : sim.declared = [.tick, heat, heat] := Except.ok.inj hdeclared
    obtain ⟨_, hall⟩ := build_registers_first hs (.inl h)
    exact ⟨b, _, sim, hs, h, hd, hall.2 (hd ▸ hsame)⟩

theorem build_registers_first_clash : ∃ (b : Builder Float Tokens) (system : System Float Tokens)
    (sim : Simulation Float Tokens), b.store.Reachable ∧ b.build system false = .ok sim ∧
      (∃ schema ∈ sim.declared, ¬sim.store.RegistersAs schema) ∧
      (sim.run .default).1 = .error (.typeMismatch "heat" ⟨.f64, []⟩ ⟨.f32, []⟩) := by
  let heat : Schema := .scalar "heat" .f64
  let narrow : Schema := .scalar "heat" .f32
  let rock : Bundle Float := (Bundle.empty "rock").add heat #v[1]
  let globals : Globals Float := ⟨0, 1⟩
  let changes : List (Change Float Tokens) := [.spawn globals.bundle, .spawn rock]
  let b : Builder Float Tokens := ⟨Store.empty.applyAll changes, some ⟨0⟩⟩
  let cool : System Float Tokens := .map ⟨"cool", [heat], heat, fun (v, _) => v⟩
  let read : System Float Tokens := .map ⟨"read", [narrow], heat, fun _ => #v[2]⟩
  have hs : b.store.Reachable := ⟨changes, rfl⟩
  have hbuild : (b.build (cool.pipe read) false).map (fun sim => (sim.declared, sim.store.schema? heat.id)) =
      .ok ([.tick, heat, narrow], some heat) := by decide +kernel
  have hrun : (b.build (cool.pipe read) false).map (fun sim => (sim.run .default).1) =
      .ok (.error (.typeMismatch "heat" ⟨.f64, []⟩ ⟨.f32, []⟩)) := by decide +kernel
  cases h : b.build (cool.pipe read) false with
  | error e => rw [h] at hbuild; cases hbuild
  | ok sim =>
    rw [h] at hbuild hrun
    obtain ⟨hd, hr⟩ := Prod.mk.inj (Except.ok.inj hbuild)
    refine ⟨b, _, sim, hs, h, ⟨narrow, hd ▸ by simp, ?_⟩, Except.ok.inj hrun⟩
    rintro ⟨registered, hregistered, hl⟩
    have hheat : sim.store.schema? narrow.id = some heat := hr
    rw [hheat] at hregistered
    cases hregistered
    cases hl

end Builder

end ColumnSim
