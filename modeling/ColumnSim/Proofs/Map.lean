import ColumnSim.Proofs.Join
import ColumnSim.Proofs.Results
import ColumnSim.System.Basic

namespace ColumnSim

variable {R : Type} {V : AssetKind → Type} {s u : Store R V} {e : EntityId} {c : Client} {m : MapSystem R}

namespace MapSystem

def results (m : MapSystem R) (s : Store R V) : ColumnWrite R m.output :=
  ⟨(s.join m.inputs).map (·.1), (s.join m.inputs).map fun entry => m.f entry.2⟩

lemma apply_eq (ha : ∀ schema ∈ m.inputs, s.Agrees schema) : m.apply c s = (m.results s).apply s := by
  have hrows := c.mapRows_eq_map (fun entry => m.f entry.2) (s.join m.inputs)
  rw [apply, evaluate, Store.query_eq_ok ha, results, ← hrows]
  rfl

def entries (m : MapSystem R) (s : Store R V) : List (EntityId × m.output.Value R) :=
  (s.join m.inputs).map fun entry => (entry.1, m.f entry.2)

lemma results_eq_ofEntries : m.results s = .ofEntries (m.entries s) := by
  simp [results, entries, ColumnWrite.ofEntries, Function.comp_def]

lemma length_results : (m.results s).entities.length = (m.results s).values.length := by
  rw [results_eq_ofEntries]
  exact ColumnWrite.length_ofEntries

end MapSystem

namespace Store.Valid

variable (hs : s.Valid) (hne : m.inputs ≠ []) (ha : ∀ schema ∈ m.inputs, s.Agrees schema)

include hs hne ha

lemma mem_entries_iff {v : m.output.Value R} :
    (e, v) ∈ m.entries s ↔ ∃ row, Row.Reads s e m.inputs row ∧ m.f row = v := by
  simp [MapSystem.entries, hs.mem_join_iff hne ha]

lemma entries_ascending : (m.entries s).Pairwise (·.1.raw < ·.1.raw) :=
  List.pairwise_map.2 (hs.join_strict hne ha)

lemma write_results (h : s.write m.output (m.results s).entities (m.results s).values = .ok u) :
    (∀ e row, Row.Reads s e m.inputs row → u.get m.output e = .ok (some (m.f row))) ∧
      ∀ e schema, (∀ row, Row.Reads s e m.inputs row → schema.id ≠ m.output.id) →
        u.get schema e = s.get schema e := by
  rw [MapSystem.results_eq_ofEntries] at h
  obtain ⟨hset, hframe⟩ := hs.write_entries (hs.entries_ascending hne ha) h
  constructor
  · intro e row hrow
    exact hset e _ ((hs.mem_entries_iff hne ha).2 ⟨row, hrow, rfl⟩)
  · intro e schema hother
    refine hframe e schema fun v hm => ?_
    obtain ⟨row, hrow, _⟩ := (hs.mem_entries_iff hne ha).1 hm
    exact hother row hrow

lemma exists_write_results (hout : s.Agrees m.output)
    (hall : ∀ e row, Row.Reads s e m.inputs row → s.Holds e m.output.id) :
    ∃ u, s.write m.output (m.results s).entities (m.results s).values = .ok u := by
  rw [MapSystem.results_eq_ofEntries]
  refine hs.exists_write_entries hout fun entry hm => ?_
  obtain ⟨row, hrow, _⟩ := (hs.mem_entries_iff hne ha).1 hm
  exact hall entry.1 row hrow

lemma write_results_missing {row : Row R m.inputs} (hout : s.Agrees m.output) (hrow : Row.Reads s e m.inputs row)
    (hn : ¬s.Holds e m.output.id)
    (hmin : ∀ f row, Row.Reads s f m.inputs row → ¬s.Holds f m.output.id → e.raw ≤ f.raw) :
    s.write m.output (m.results s).entities (m.results s).values = .error (.missingOutput e m.output.name) := by
  rw [MapSystem.results_eq_ofEntries]
  obtain ⟨schema, hm⟩ := List.exists_mem_of_ne_nil _ hne
  have hspawned := hs.spawned_of_holds ((hs.exists_reads_iff ha).1 ⟨row, hrow⟩ schema hm)
  have hentry := (hs.mem_entries_iff hne ha).2 ⟨row, hrow, rfl⟩
  apply hs.write_entries_missing (hs.entries_ascending hne ha) hout hentry hspawned hn
  intro f v hf hfn
  obtain ⟨other, hother, _⟩ := (hs.mem_entries_iff hne ha).1 hf
  exact hmin f other hother hfn

lemma exists_run_map (c : Client) (hout : s.Agrees m.output)
    (hall : ∀ e row, Row.Reads s e m.inputs row → s.Holds e m.output.id) :
    ∃ u, System.run c (.map m) s = (.ok (), u) ∧
      (∀ e row, Row.Reads s e m.inputs row → u.get m.output e = .ok (some (m.f row))) ∧
      (∀ e schema, (∀ row, Row.Reads s e m.inputs row → schema.id ≠ m.output.id) →
        u.get schema e = s.get schema e) ∧
      s.Refills u := by
  obtain ⟨u, hu⟩ := hs.exists_write_results hne ha hout hall
  obtain ⟨hset, hframe⟩ := hs.write_results hne ha hu
  refine ⟨u, ?_, hset, hframe, .write hs hu⟩
  have hrun : System.run c (.map m) s = .ofStep s (m.apply c s) := rfl
  rw [hrun, MapSystem.apply_eq ha, ColumnWrite.apply_eq_write MapSystem.length_results hout, hu]
  rfl

end Store.Valid

theorem Store.Reachable.run_map (hs : s.Reachable) (c : Client) (m : MapSystem R) (hne : m.inputs ≠ [])
    (ha : ∀ schema ∈ m.inputs, s.Agrees schema) :
    (s.Agrees m.output → (∀ e row, Row.Reads s e m.inputs row → s.Holds e m.output.id) →
      ∃ u, System.run c (.map m) s = (.ok (), u) ∧
        (∀ e row, Row.Reads s e m.inputs row → u.get m.output e = .ok (some (m.f row))) ∧
        (∀ e schema, (∀ row, Row.Reads s e m.inputs row → schema.id ≠ m.output.id) →
          u.get schema e = s.get schema e) ∧
        u.outline = s.outline) ∧
    (s.Agrees m.output → ∀ e row, Row.Reads s e m.inputs row → ¬s.Holds e m.output.id →
      (∀ f row, Row.Reads s f m.inputs row → ¬s.Holds f m.output.id → e.raw ≤ f.raw) →
      System.run c (.map m) s = (.error (.missingOutput e m.output.name), s)) ∧
    ((∀ e row, ¬Row.Reads s e m.inputs row) → System.run c (.map m) s = (.ok (), s)) := by
  have hv := hs.valid
  have hrun : System.run c (.map m) s = .ofStep s (m.apply c s) := rfl
  refine ⟨fun hout hall => ?_, fun hout e row hrow hn hmin => ?_, fun hnone => ?_⟩
  · obtain ⟨u, hu, hset, hframe, hrefills⟩ := hv.exists_run_map hne ha c hout hall
    exact ⟨u, hu, hset, hframe, hrefills.outline⟩
  · rw [hrun, MapSystem.apply_eq ha, ColumnWrite.apply_eq_write MapSystem.length_results hout,
      hv.write_results_missing hne ha hout hrow hn hmin]
    rfl
  · have hjoin : s.join m.inputs = [] := List.eq_nil_iff_forall_not_mem.2 fun entry hm =>
      hnone entry.1 entry.2 ((hv.mem_join_iff hne ha).1 hm)
    rw [hrun, MapSystem.apply_eq ha, MapSystem.results, hjoin]
    rfl

theorem Store.Reachable.run_map_double : ∃ (s : Store Nat Tokens) (double warm : MapSystem Nat), s.Reachable ∧
    s.get (.scalar "mass" .f64) ⟨1⟩ = .ok (some #v[6]) ∧
    (∃ u, System.run .default (.map double) s = (.ok (), u) ∧
      u.get (.scalar "mass" .f64) ⟨1⟩ = .ok (some #v[12]) ∧ u.outline = s.outline) ∧
    System.run .default (.map warm) s = (.error (.missingOutput ⟨0⟩ "heat"), s) := by
  let mass : Schema := .scalar "mass" .f64
  let rock (n : Nat) : Bundle Nat := (Bundle.empty "rock").add mass #v[n]
  let changes : List (Change Nat Tokens) := [.spawn (rock 5), .spawn (rock 6)]
  let double : MapSystem Nat := ⟨"double", [mass], mass, fun (v, ()) => #v[2 * Schema.unpack v]⟩
  let warm : MapSystem Nat := ⟨"warm", [mass], .scalar "heat" .f64, fun (v, ()) => v⟩
  have hs : Reachable (empty.applyAll changes) := ⟨changes, rfl⟩
  have hmass : (empty.applyAll changes).Agrees mass := checkSchema_eq_ok_iff.1 (by decide +kernel)
  have hheat : (empty.applyAll changes).Agrees (.scalar "heat" .f64) := checkSchema_eq_ok_iff.1 (by decide +kernel)
  have ha : ∀ schema ∈ [mass], (empty.applyAll changes).Agrees schema := List.forall_mem_singleton.2 hmass
  have hfive : (empty.applyAll changes).get mass ⟨0⟩ = .ok (some #v[5]) := by decide +kernel
  have hsix : (empty.applyAll changes).get mass ⟨1⟩ = .ok (some #v[6]) := by decide +kernel
  have hcold : (empty.applyAll changes).locate? ⟨0⟩ warm.output.id = none := by decide +kernel
  obtain ⟨hdouble, _⟩ := hs.run_map .default double (List.cons_ne_nil _ _) ha
  obtain ⟨_, hwarm, _⟩ := hs.run_map .default warm (List.cons_ne_nil _ _) ha
  obtain ⟨u, hu, hset, _, hout⟩ := hdouble hmass fun e row hrow =>
    (hs.valid.exists_reads_iff ha).1 ⟨row, hrow⟩ mass (List.mem_singleton.2 rfl)
  refine ⟨_, double, warm, hs, hsix, ⟨u, hu, hset ⟨1⟩ (#v[6], ()) ⟨hsix, trivial⟩, hout⟩, ?_⟩
  refine hwarm hheat ⟨0⟩ (#v[5], ()) ⟨hfive, trivial⟩ (fun hh => ?_) fun f _ _ _ => Nat.zero_le _
  obtain ⟨p, hp⟩ := hs.valid.holds_iff.1 hh
  rw [hcold] at hp
  cases hp

end ColumnSim
