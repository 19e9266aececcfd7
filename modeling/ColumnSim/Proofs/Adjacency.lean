import ColumnSim.Proofs.Links
import ColumnSim.Proofs.Lowest
import Mathlib.Algebra.BigOperators.Group.List.Lemmas
import Mathlib.Algebra.GroupWithZero.Nat

namespace ColumnSim

variable {R : Type} {V : AssetKind → Type} {s : Store R V} {rel : Relation R} {e : EntityId} {es : List EntityId}

namespace Graph

variable {g : Graph} {links : List (EntityId × EntityId)}

lemma targets_cons {source target : EntityId} : (mk ((source, target) :: links)).targets e =
    if source = e then target :: (mk links).targets e else (mk links).targets e := by
  simp only [targets, List.filterMap_cons]
  split <;> simp_all

lemma length_targets (g : Graph) (e : EntityId) : (g.targets e).length = (g.links.map (·.1)).count e := by
  obtain ⟨links⟩ := g
  induction links with
  | nil => rfl
  | cons link links ih =>
    obtain ⟨source, target⟩ := link
    rw [targets_cons, List.map_cons, List.count_cons]
    by_cases h : source = e <;> simp_all

lemma mem_sources_iff_targets : e ∈ g.sources ↔ g.targets e ≠ [] := by
  rw [mem_sources_iff, ← List.length_pos_iff, length_targets, List.count_pos_iff]
  simp

lemma sources_perm (g : Graph) : g.sources.Perm (g.links.map (·.1)).dedup := by
  have hnodup : g.sources.Nodup := g.sources_ascending.imp fun hlt heq => Nat.ne_of_lt hlt (congrArg _ heq)
  refine (List.perm_ext_iff_of_nodup hnodup (List.nodup_dedup _)).2 fun e => ?_
  rw [mem_sources_iff, List.mem_dedup]
  simp

lemma sum_length_targets (g : Graph) : (g.sources.map fun e => (g.targets e).length).sum = g.edgeCount := calc
  (g.sources.map fun e => (g.targets e).length).sum = (g.sources.map fun e => (g.links.map (·.1)).count e).sum := by
    simp only [length_targets]
  _ = ((g.links.map (·.1)).dedup.map fun e => (g.links.map (·.1)).count e).sum := (g.sources_perm.map _).sum_eq
  _ = g.edgeCount := by rw [List.sum_map_count_dedup_eq_length, List.length_map, edgeCount]

end Graph

namespace Relation

/-- The holders of a list whose value has its source at the entity, in the order of the list, and their targets. -/
structure Leaving (rel : Relation R) (s : Store R V) (es : List EntityId) (e : EntityId)
    (holders targets : List EntityId) : Prop where
  sublist : holders.Sublist es
  mem : ∀ holder, holder ∈ holders ↔ holder ∈ es ∧ ∃ v, s.get rel.schema holder = .ok (some v) ∧ rel.source v = e
  targets : List.Forall₂ (fun holder target => ∃ v, s.get rel.schema holder = .ok (some v) ∧ rel.target v = target)
    holders targets

lemma links_cons {holder : EntityId} {v : rel.schema.Value R} (h : s.get rel.schema holder = .ok (some v)) :
    rel.links s (holder :: es) = (rel.source v, rel.target v) :: rel.links s es := by
  have hlink : rel.link? s holder = some (rel.source v, rel.target v) := by
    rw [Store.get_eq_ok (Store.agrees_of_get h)] at h
    rw [link?, Except.ok.inj h, Option.map_some]
  exact List.filterMap_cons_some hlink

lemma length_links (h : ∀ holder ∈ es, ∃ v, s.get rel.schema holder = .ok (some v)) :
    (rel.links s es).length = es.length := by
  induction es with
  | nil => rfl
  | cons holder es ih =>
    obtain ⟨⟨v, hv⟩, hes⟩ := List.forall_mem_cons.1 h
    rw [links_cons hv, List.length_cons, ih hes, List.length_cons]

lemma exists_leaving (h : ∀ holder ∈ es, ∃ v, s.get rel.schema holder = .ok (some v)) (e : EntityId) :
    ∃ holders, rel.Leaving s es e holders ((Graph.mk (rel.links s es)).targets e) := by
  induction es with
  | nil => exact ⟨[], .slnil, by simp, .nil⟩
  | cons holder es ih =>
    obtain ⟨⟨v, hv⟩, hes⟩ := List.forall_mem_cons.1 h
    obtain ⟨holders, hsublist, hmem, htargets⟩ := ih hes
    have hsource : (∃ w, s.get rel.schema holder = .ok (some w) ∧ rel.source w = e) ↔ rel.source v = e := by
      simp [hv]
    rw [links_cons hv, Graph.targets_cons]
    by_cases he : rel.source v = e
    · rw [if_pos he]
      refine ⟨holder :: holders, hsublist.cons_cons holder, fun other => ?_, .cons ⟨v, hv, rfl⟩ htargets⟩
      grind
    · rw [if_neg he]
      refine ⟨holders, hsublist.cons holder, fun other => ?_, htargets⟩
      grind

end Relation

theorem Store.graph_lists_arrivals (changes : List (Change R V)) (hs : s = empty.applyAll changes) (rel : Relation R)
    (ha : s.Agrees rel.schema) (hes : es = Event.recipients (empty.log changes) rel.schema.id) :
    (es.Nodup ∧ ∀ holder, holder ∈ es ↔ s.Holds holder rel.schema.id) ∧
    ∃ g, s.graph rel = .ok g ∧
      (∀ e, ∃ holders, rel.Leaving s es e holders (g.targets e)) ∧
      (g.sources.Pairwise (·.raw < ·.raw) ∧ ∀ e, e ∈ g.sources ↔ g.targets e ≠ []) ∧
      g.edgeCount = es.length ∧ g.edgeCount = (g.sources.map fun e => (g.targets e).length).sum := by
  have hrun := applyAll_run (empty : Store R V) changes
  rw [← hs] at hrun
  have hv := hrun.valid empty_valid
  have harrived : s.Arrived rel.schema.id es := by
    rw [hes]
    exact hrun.arrived empty_valid arrived_empty
  have hheld : ∀ holder ∈ es, ∃ v, s.get rel.schema holder = .ok (some v) := fun holder hm =>
    (hv.exists_get_iff ha).2 ((harrived.mem holder).1 hm)
  refine ⟨⟨harrived.nodup hv, harrived.mem⟩, ⟨rel.links s es⟩, harrived.graph_eq hv ha, ?_, ?_, ?_, ?_⟩
  · exact Relation.exists_leaving hheld
  · exact ⟨Graph.sources_ascending _, fun e => Graph.mem_sources_iff_targets⟩
  · exact Relation.length_links hheld
  · exact (Graph.sum_length_targets _).symm

theorem Store.graph_lists_arrivals_ties : ∃ (s : Store Nat Tokens) (g : Graph), s.Reachable ∧
    s.entitiesWith Relation.edgeSchema.id = [⟨2⟩, ⟨0⟩, ⟨3⟩] ∧ s.graph .edge = .ok g ∧
    (∃ holders, Relation.edge.Leaving s [⟨2⟩, ⟨3⟩, ⟨0⟩] ⟨1⟩ holders (g.targets ⟨1⟩)) ∧
    g.targets ⟨1⟩ = [⟨7⟩, ⟨5⟩, ⟨4⟩] ∧ g.sources = [⟨1⟩] ∧ g.edgeCount = 3 := by
  let node : Bundle Nat := (Bundle.empty "node").add (.scalar "mass" .f64) #v[1]
  let tie (name : String) (a b : Nat) : Bundle Nat :=
    (Bundle.empty name).add Relation.edgeSchema (Relation.edgeValue ⟨a⟩ ⟨b⟩)
  let changes : List (Change Nat Tokens) := [.spawn node, .spawn node, .spawn node, .attach ⟨2⟩ (tie "tie" 1 7),
    .spawn (tie "link" 0 6), .attach ⟨0⟩ (tie "tie" 1 4),
    .write Relation.edgeSchema [⟨3⟩] [Relation.edgeValue ⟨1⟩ ⟨5⟩]]
  have ha : (empty.applyAll changes).Agrees Relation.edgeSchema := checkSchema_eq_ok_iff.1 (by decide +kernel)
  have hes : [⟨2⟩, ⟨3⟩, ⟨0⟩] = Event.recipients (empty.log changes) Relation.edgeSchema.id := by decide +kernel
  have hread : ((empty.applyAll changes).graph .edge).map (fun g => (g.targets ⟨1⟩, g.sources)) =
      .ok ([⟨7⟩, ⟨5⟩, ⟨4⟩], [⟨1⟩]) := by decide +kernel
  obtain ⟨_, g, hg, hleaving, _, hcount, _⟩ := graph_lists_arrivals changes rfl .edge ha hes
  rw [hg] at hread
  obtain ⟨htargets, hsources⟩ := Prod.mk.inj (Except.ok.inj hread)
  exact ⟨_, g, ⟨changes, rfl⟩, by decide +kernel, hg, hleaving ⟨1⟩, htargets, hsources, hcount⟩

end ColumnSim
