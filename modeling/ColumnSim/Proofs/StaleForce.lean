import ColumnSim.Proofs.Determined
import ColumnSim.Proofs.Evaluation
import ColumnSim.Proofs.StepSource

/-! Values that were left in a component. A map that resets all of them hides them from what runs behind it, and an
integrator starts with such a map of the forces. -/

namespace ColumnSim

variable {R : Type} {V : AssetKind → Type} {s u : Store R V} {schema : Schema} {e : EntityId}

structure Store.SameBut (s : Store R V) (c : ComponentId) (u : Store R V) : Prop where
  outline : u.outline = s.outline
  cells : ∀ e d, d ≠ c → u.cell? e d = s.cell? e d

lemma Store.Valid.sameBut_write {es : List EntityId} {vs : List (schema.Value R)} (hs : s.Valid)
    (h : s.write schema es vs = .ok u) : s.SameBut schema.id u :=
  ⟨outline_write h, fun _ _ hd => (hs.cell?_write h).trans (if_neg hd)⟩

namespace MapSystem

variable {m : MapSystem R} {v : m.output.Value R}

structure Resets (m : MapSystem R) (v : m.output.Value R) : Prop where
  inputs : m.inputs = [m.output]
  result : ∀ row, m.f row = v

namespace Resets

variable (hm : m.Resets v)

include hm

lemma inputs_ne_nil : m.inputs ≠ [] := by simp [hm.inputs]

lemma agrees_inputs (ha : s.Agrees m.output) : ∀ schema ∈ m.inputs, s.Agrees schema := by simpa [hm.inputs] using ha

variable (hs : s.Valid) (ha : s.Agrees m.output)

include hs ha

lemma mem_entries_iff {w : m.output.Value R} : (e, w) ∈ m.entries s ↔ s.Holds e m.output.id ∧ v = w := by
  have hreads := hs.exists_reads_iff (e := e) (hm.agrees_inputs ha)
  simp only [hm.inputs, List.forall_mem_singleton] at hreads
  rw [hs.mem_entries_iff hm.inputs_ne_nil (hm.agrees_inputs ha), ← hreads]
  simp only [hm.result, exists_and_right]

lemma lastOf?_entries : lastOf? (m.entries s) e = (s.cell? e m.output.id).map fun _ => v := by
  have hnodup : ((m.entries s).map (·.1)).Nodup :=
    nodup_map_of_strict (hs.entries_ascending hm.inputs_ne_nil (hm.agrees_inputs ha)) fun _ _ => congrArg EntityId.raw
  apply Option.ext
  intro w
  rw [lastOf?_eq_some_iff hnodup, hm.mem_entries_iff hs ha, ← hs.cell?_isSome_iff]
  cases s.cell? e m.output.id <;> simp

lemma exists_run (c : Client) : ∃ u, System.run c (.map m) s = (.ok (), u) ∧ s.Refills u ∧
    ∀ e d, u.cell? e d = if d = m.output.id then (s.cell? e d).map fun _ => .ofValue v else s.cell? e d := by
  obtain ⟨u, hu, _, _, hrefills⟩ := hs.exists_run_map hm.inputs_ne_nil (hm.agrees_inputs ha) c ha fun e row hrow =>
    (hs.exists_reads_iff (hm.agrees_inputs ha)).1 ⟨row, hrow⟩ _ (by simp [hm.inputs])
  refine ⟨u, hu, hrefills, fun e d => ?_⟩
  rw [ColumnWrite.cell?_apply hs (run_eq_ok_iff.1 hu).2, results_eq_ofEntries, ColumnWrite.cellOf?,
    ColumnWrite.zip_ofEntries, hm.lastOf?_entries hs ha]
  split
  · rename_i hd
    subst hd
    cases s.cell? e m.output.id <;> rfl
  · rfl

lemma run_eq (hu : u.Valid) (h : s.SameBut m.output.id u) (c : Client) :
    System.run c (.map m) s = System.run c (.map m) u := by
  have hau : u.Agrees m.output := by rwa [Store.Agrees, Store.schema?_of_outline h.outline]
  obtain ⟨t, ht, hst, hcell⟩ := hm.exists_run hs ha c
  obtain ⟨r, hr, hur, hcell'⟩ := hm.exists_run hu hau c
  have hout : t.outline = r.outline := hst.outline.trans (h.outline.symm.trans hur.outline.symm)
  have heq : t = r := hur.valid.eq_of_cells hst.valid hout fun e d => by
    rw [hcell, hcell']
    split
    · have hsome : (u.cell? e d).isSome = (s.cell? e d).isSome := by
        rw [hu.cell?_isSome, hs.cell?_isSome, Store.locate?_of_outline h.outline]
      cases hsd : s.cell? e d <;> cases hud : u.cell? e d <;> simp_all
    · exact (h.cells e d ‹_›).symm
  rw [ht, hr, heq]

end Resets

end MapSystem

namespace SixDof

variable [Scalar R]

lemma run_congr_of_clearForces {d : SixDof R V} {c : Client}
    (h : System.run c clearForces s = System.run c clearForces u) :
    System.run c d.system s = System.run c d.system u := by
  rw [run_eq_parts]
  simp only [parts, List.cons_append, List.nil_append, List.map_cons, Outcome.inOrder, h]

theorem trace_eq_of_sameBut_force (hs : s.Reachable) (hu : u.Reachable) (ha : s.Agrees .force)
    (h : s.SameBut Schema.force.id u) (d : SixDof R V) (clients : List Client) :
    d.system.trace clients s = d.system.trace clients u := by
  cases clients with
  | nil => rfl
  | cons c clients =>
    have hresets : MapSystem.Resets (R := R)
        ⟨"clear_forces", [.force], .force, fun _ => Wrench.zero.toVector⟩ Wrench.zero.toVector := ⟨rfl, fun _ => rfl⟩
    simp only [System.trace, run_congr_of_clearForces (hresets.run_eq hs.valid ha hu.valid h c)]

theorem trace_eq_of_sameBut_force_craft : ∃ (s u : Store Float Tokens) (d broken : SixDof Float Tokens),
    s.Reachable ∧ u.Reachable ∧ s.Agrees .force ∧ s.SameBut Schema.force.id u ∧
    s.get .force ⟨1⟩ = .ok (some #v[0, 0, 0, 0, 0, 0]) ∧ u.get .force ⟨1⟩ = .ok (some #v[0, 0, 0, 0, 0, 9]) ∧
    (∀ clients, d.system.trace clients s = d.system.trace clients u) ∧
    (d.system.trace [.default, .default] u).map (fun outcome => (outcome.1,
      (outcome.2.bodyState ⟨1⟩).map (·.map fun b => (b.force.force.z, b.velocity.linear.z)))) =
      [(.ok (), .ok (some (1, 0.125))), (.ok (), .ok (some (1, 0.25)))] ∧
    (∀ clients, broken.system.trace clients s = broken.system.trace clients u) ∧
    (broken.system.trace [.default, .default] u).map (fun outcome => (outcome.1, outcome.2.get .force ⟨1⟩)) =
      [(.error (.missingOutput ⟨1⟩ "heat"), .ok (some #v[0, 0, 0, 0, 0, 0])),
        (.error (.missingOutput ⟨1⟩ "heat"), .ok (some #v[0, 0, 0, 0, 0, 0]))] := by
  let changes : List (Change Float Tokens) :=
    [.spawn (Globals.bundle ⟨0, 0.125⟩), .spawn (Body.atRest .unit).bundle]
  let s : Store Float Tokens := Store.empty.applyAll changes
  let lift : MapSystem Float := ⟨"lift", [.inertia], .force, fun _ => #v[0, 0, 0, 0, 0, 1]⟩
  let glow : MapSystem Float := ⟨"glow", [.inertia], .scalar "heat" .f64, fun _ => #v[1]⟩
  let d : SixDof Float Tokens := ⟨none, some (.map lift)⟩
  let broken : SixDof Float Tokens := ⟨none, some (.map glow)⟩
  have hs : s.Reachable := ⟨changes, rfl⟩
  have ha : s.Agrees .force := Store.checkSchema_eq_ok_iff.1 (by decide +kernel)
  have hclear : s.get .force ⟨1⟩ = .ok (some #v[0, 0, 0, 0, 0, 0]) := by decide +kernel
  have hwrite : (s.write .force [⟨1⟩] [#v[0, 0, 0, 0, 0, 9]]).map (·.get .force ⟨1⟩) =
      .ok (.ok (some #v[0, 0, 0, 0, 0, 9])) := by decide +kernel
  obtain ⟨u, hu, hforce⟩ := map_eq_ok_iff.1 hwrite
  have hsame := hs.valid.sameBut_write hu
  have htrace := trace_eq_of_sameBut_force hs (hs.write hu) ha hsame
  refine ⟨s, u, d, broken, hs, hs.write hu, ha, hsame, hclear, hforce, htrace d, ?_, htrace broken, ?_⟩
  · rw [← htrace d]
    decide +kernel
  · rw [← htrace broken]
    decide +kernel

end SixDof

end ColumnSim
