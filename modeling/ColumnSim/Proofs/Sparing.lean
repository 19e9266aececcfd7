import ColumnSim.Proofs.Runs

/-! Systems that spare a component: what entities hold for it stays, however a run of the system ends. -/

namespace ColumnSim

variable {R : Type} {V : AssetKind → Type} {s t u : Store R V} {schema : Schema} {e : EntityId} {c : Client}

namespace Store

section LeadsTo

def LeadsTo (s u : Store R V) : Prop := ∃ changes : List (Change R V), u = s.applyAll changes

lemma LeadsTo.refl : s.LeadsTo s := ⟨[], rfl⟩

lemma LeadsTo.trans (h : s.LeadsTo t) (ht : t.LeadsTo u) : s.LeadsTo u := by
  obtain ⟨front, rfl⟩ := h
  obtain ⟨back, rfl⟩ := ht
  exact ⟨front ++ back, List.foldl_append.symm⟩

lemma LeadsTo.reachable (h : s.LeadsTo u) (hs : s.Reachable) : u.Reachable := by
  obtain ⟨changes, rfl⟩ := hs
  exact LeadsTo.trans ⟨changes, rfl⟩ h

lemma LeadsTo.write {es : List EntityId} {vs : List (schema.Value R)} (h : s.write schema es vs = .ok u) :
    s.LeadsTo u :=
  ⟨[.write schema es vs], by rw [applyAll, List.foldl_cons, apply, h]; rfl⟩

lemma Step.contains {event : Event R V} (h : Step s event u) (he : s.entities.contains e = true) :
    u.entities.contains e = true := by
  cases h with
  | spawned h =>
    obtain ⟨_, _, rfl⟩ := spawn_eq_ok_iff.1 h
    rw [entities_insert]
    exact Allocator.contains_allocate.2 (.inl he)
  | attached h =>
    obtain ⟨_, rfl⟩ := attach_eq_ok_iff.1 h
    rwa [entities_insert]
  | written h =>
    obtain ⟨_, rfl⟩ := eq_of_outline (outline_write h)
    exact he
  | named => exact he
  | added => exact he
  | frozen => exact he

lemma Run.contains {events : List (Event R V)} (h : Run s events u) (he : s.entities.contains e = true) :
    u.entities.contains e = true := by
  induction h with
  | nil => exact he
  | cons h _ ih => exact ih (h.contains he)

lemma LeadsTo.contains (h : s.LeadsTo u) (he : s.entities.contains e = true) : u.entities.contains e = true := by
  obtain ⟨changes, rfl⟩ := h
  exact (s.applyAll_run changes).contains he

end LeadsTo

/-- Changes that leave a component alone: no entity that was there holds another value for it, gets it or loses it.
New entities may bring it. -/
structure Spared (schema : Schema) (s u : Store R V) : Prop where
  leadsTo : s.LeadsTo u
  get_eq : ∀ e, s.entities.contains e = true → u.get schema e = s.get schema e

namespace Spared

lemma refl : s.Spared schema s := ⟨.refl, fun _ _ => rfl⟩

lemma trans (h : s.Spared schema t) (ht : t.Spared schema u) : s.Spared schema u where
  leadsTo := h.leadsTo.trans ht.leadsTo
  get_eq e he := (ht.get_eq e (h.leadsTo.contains he)).trans (h.get_eq e he)

lemma write {output : Schema} {es : List EntityId} {vs : List (output.Value R)} (hs : s.Valid)
    (hne : schema.id ≠ output.id) (h : s.write output es vs = .ok u) : s.Spared schema u where
  leadsTo := .write h
  get_eq e _ := get_congr (outline_write h) (by rw [hs.cell?_write h, if_neg hne])

variable (h : s.Spared schema u)

include h

lemma get_of_get (hs : s.Valid) {v : schema.Value R} (hv : s.get schema e = .ok (some v)) :
    u.get schema e = .ok (some v) :=
  (h.get_eq e (hs.spawned_of_holds (hs.holds_of_get hv))).trans hv

lemma lowest (hs : s.Reachable) (ha : s.Agrees schema) (hl : s.Lowest schema.id e) : u.Lowest schema.id e := by
  have hv := hs.valid
  have hu := (h.leadsTo.reachable hs).valid
  obtain ⟨v, hget⟩ := (hv.exists_get_iff ha).2 hl.holds
  have hgetu := h.get_of_get hv hget
  refine ⟨hu.holds_of_get hgetu, fun f hf => ?_⟩
  by_cases hc : s.entities.contains f = true
  · obtain ⟨w, hw⟩ := (hu.exists_get_iff (agrees_of_get hgetu)).2 hf
    exact hl.le f (hv.holds_of_get ((h.get_eq f hc).symm.trans hw))
  · have he := hv.spawned_of_holds hl.holds
    simp only [Allocator.contains, decide_eq_true_eq] at hc he
    omega

omit h in
lemma timeStep (h : s.Spared .timeStep u) (hs : s.Reachable) {x : R} (hx : s.timeStep = .ok x) :
    u.timeStep = .ok x := by
  obtain ⟨e, hl, hget⟩ := hs.valid.timeStep_eq_ok_iff.1 hx
  refine (h.leadsTo.reachable hs).valid.timeStep_eq_ok_iff.2 ⟨e, h.lowest hs (agrees_of_get hget) hl, ?_⟩
  exact h.get_of_get hs.valid hget

end Spared

end Store

namespace System

def Spares (system : System R V) (schema : Schema) : Prop :=
  ∀ (c : Client) (s : Store R V), s.Reachable → s.Spared schema (run c system s).2

lemma spared_inOrder {systems : List (System R V)} (h : ∀ system ∈ systems, system.Spares schema) (hs : s.Reachable)
    (c : Client) : s.Spared schema (Outcome.inOrder (systems.map (run c)) s).2 :=
  Outcome.inOrder_invariant (P := s.Spared schema)
    (fun system hm t ht => ht.trans (h system hm c t (ht.leadsTo.reachable hs))) .refl

end System

namespace Leaf.Plain

variable {l : Leaf R V}

lemma leadsTo (hl : l.Plain) (hs : s.Valid) (c : Client) : s.LeadsTo (System.run c l.system s).2 := by
  rcases hl.eq_or_write hs c with hu | ⟨_, _, _, _, hw⟩
  · rw [hu]
    exact .refl
  · exact .write hw

lemma spares (hl : l.Plain) (h : ∀ output ∈ l.system.effects, schema.id ≠ output.id) : l.system.Spares schema := by
  intro c s hs
  rcases hl.eq_or_write hs.valid c with hu | ⟨output, hm, _, _, hw⟩
  · rw [hu]
    exact .refl
  · exact .write hs.valid (h output hm) hw

end Leaf.Plain

lemma MapSystem.spares (m : MapSystem R) (h : schema.id ≠ m.output.id) : (System.map m : System R V).Spares schema :=
  Leaf.Plain.spares (l := .map m) trivial (List.forall_mem_singleton.2 h)

end ColumnSim
