import ColumnSim.Proofs.Failure

/-! What maps and folds read and what they write: an evaluation of cells, and then one write to their output. -/

namespace ColumnSim

variable {R : Type} {V : AssetKind → Type} {s t u : Store R V}

namespace Store.Refills

lemma query_eq (h : s.Refills u) (hs : s.Valid) {inputs : List Schema}
    (hcell : ∀ schema ∈ inputs, ∀ e, u.cell? e schema.id = s.cell? e schema.id) : u.query inputs = s.query inputs :=
  h.valid.query_congr hs (schema?_of_outline h.outline) hcell

lemma graph_eq (h : s.Refills u) (hs : s.Valid) {rel : Relation R}
    (hcell : ∀ e, u.cell? e rel.schema.id = s.cell? e rel.schema.id) : u.graph rel = s.graph rel :=
  graph_congr (h.query_eq hs (List.forall_mem_singleton.2 hcell)) fun _ => stamp?_of_outline h.outline

lemma target_eq (h : s.Refills u) (schema : Schema) (e : EntityId) : u.target schema e = s.target schema e := by
  have hl := locate?_of_outline h.outline e schema.id
  obtain ⟨_, rfl⟩ := eq_of_outline h.outline
  rw [target, target, hl]

end Store.Refills

lemma MapSystem.evaluate_client (m : MapSystem R) (c d : Client) (s : Store R V) :
    m.evaluate c s = m.evaluate d s := by
  simp only [evaluate, Query.map, Client.mapRows_eq_map]

lemma MapSystem.run_eq_ok_iff {m : MapSystem R} {c : Client} : System.run c (.map m) s = (.ok (), u) ↔
    (∀ schema ∈ m.inputs, s.Agrees schema) ∧ (m.results s).apply s = .ok u := by
  have hrun : System.run c (.map m) s = .ofStep s (m.apply c s) := rfl
  rw [hrun, Outcome.ofStep_eq_ok_iff]
  constructor
  · intro h
    obtain ⟨_, hw, _⟩ := bind_eq_ok_iff.1 h
    obtain ⟨_, hq, _⟩ := bind_eq_ok_iff.1 hw
    obtain ⟨ha, _⟩ := Store.agrees_of_query hq
    rw [apply_eq ha] at h
    exact ⟨ha, h⟩
  · rintro ⟨ha, h⟩
    rwa [apply_eq ha]

lemma FoldSystem.evaluate_client (f : FoldSystem R) (c d : Client) (s : Store R V) :
    f.evaluate c s = f.evaluate d s := by
  simp only [evaluate, Graph.fold, Client.mapRows_eq_map]

namespace ColumnWrite

variable {schema : Schema} {w : ColumnWrite R schema} {e : EntityId} {c : ComponentId}

def cellOf? (w : ColumnWrite R schema) (e : EntityId) (c : ComponentId) : Option (Buffer R) :=
  if c = schema.id then (lastOf? (w.entities.zip w.values) e).map .ofValue else none

lemma cellOf?_of_ne (h : c ≠ schema.id) : w.cellOf? e c = none := if_neg h

lemma refills (hs : s.Valid) (h : w.apply s = .ok u) : s.Refills u := by
  rw [apply] at h
  split at h
  · cases h
    exact .refl hs
  · exact .write hs h

lemma cell?_apply (hs : s.Valid) (h : w.apply s = .ok u) : u.cell? e c = (w.cellOf? e c).or (s.cell? e c) := by
  rw [apply] at h
  split at h
  · rename_i hnone
    cases h
    simp [cellOf?, List.isEmpty_iff.1 hnone, lastOf?]
  · rw [hs.cell?_write h, cellOf?]
    split <;> simp

lemma exists_apply (hu : s.Refills u) (h : w.apply s = .ok t) : ∃ v, w.apply u = .ok v := by
  rw [apply] at h
  rw [apply]
  split at h
  · exact ⟨u, if_pos ‹_›⟩
  · rename_i hne
    obtain ⟨hlen, ha, targets, htargets, _⟩ := Store.write_eq_ok_iff.1 h
    rw [← funext (hu.target_eq schema)] at htargets
    rw [if_neg hne]
    exact ⟨_, Store.write_eq_ok_iff.2 ⟨hlen, hu.agrees_iff.2 ha, targets, htargets, rfl⟩⟩

end ColumnWrite

namespace Leaf

variable {l : Leaf R V} {output : Schema} {f : Store R V → Except Error (ColumnWrite R output)}

structure Evaluates (l : Leaf R V) (output : Schema) (f : Store R V → Except Error (ColumnWrite R output)) : Prop where
  effects : l.system.effects = [output]
  run : ∀ c s, System.run c l.system s = .ofStep s (f s >>= fun w => w.apply s)
  congr : ∀ {s u}, s.Valid → s.Refills u →
    (∀ schema ∈ l.reads, ∀ e, u.cell? e schema.id = s.cell? e schema.id) → f u = f s

lemma evaluates_map (m : MapSystem R) : (map m : Leaf R V).Evaluates m.output (m.evaluate .default) where
  effects := rfl
  run c s := by rw [m.evaluate_client .default c s]; rfl
  congr {s u} hs hu hcell := by
    have hq : u.query m.inputs = s.query m.inputs := hu.query_eq hs hcell
    rw [MapSystem.evaluate, MapSystem.evaluate, hq]

lemma evaluates_fold (f : FoldSystem R) : (fold f : Leaf R V).Evaluates f.output (f.evaluate .default) where
  effects := rfl
  run c s := by rw [f.evaluate_client .default c s]; rfl
  congr hs hu hcell := by
    obtain ⟨hrel, hinputs⟩ := List.forall_mem_cons.1 hcell
    obtain ⟨hleft, hright⟩ := List.forall_mem_append.1 hinputs
    rw [FoldSystem.evaluate, FoldSystem.evaluate, hu.graph_eq hs hrel, hu.query_eq hs hleft, hu.query_eq hs hright]

lemma Plain.exists_evaluates (hl : l.Plain) : ∃ output f, l.Evaluates output f := by
  cases l with
  | map m => exact ⟨_, _, evaluates_map m⟩
  | fold f => exact ⟨_, _, evaluates_fold f⟩
  | procedure p => exact hl.elim

lemma Evaluates.run_eq_ok_iff {c : Client} (h : l.Evaluates output f) :
    System.run c l.system s = (.ok (), u) ↔ ∃ w, f s = .ok w ∧ w.apply s = .ok u := by
  rw [h.run, Outcome.ofStep_eq_ok_iff, bind_eq_ok_iff]

lemma Plain.exists_referenced (hl : l.Plain) {schema : Schema} (hm : schema ∈ l.reads) :
    ∃ first ∈ l.system.referencedInputs, first.id = schema.id := by
  cases l with
  | map m => exact ⟨schema, hm, rfl⟩
  | fold f =>
    obtain ⟨first, hfirst, _, hid⟩ := Schema.exists_first_of_mem hm
    exact ⟨first, hfirst, hid⟩
  | procedure p => exact hl.elim

end Leaf

end ColumnSim
