import ColumnSim.Proofs.Leaves

namespace ColumnSim

variable {R : Type} {V : AssetKind → Type}

inductive Composition (R : Type) (V : AssetKind → Type)
  | leaf (l : Leaf R V)
  | empty
  | pipe (first second : Composition R V)
  | append (front next : Composition R V)
  | appendSome (front next : Composition R V)
  | appendNone (front : Composition R V)
  | push (front stage : Composition R V)

namespace Composition

def system : Composition R V → System R V
  | leaf l => l.system
  | empty => .pipeline []
  | pipe first second => first.system.pipe second.system
  | append front next => front.system.append next.system
  | appendSome front next => front.system.appendSome (some next.system)
  | appendNone front => front.system.appendSome none
  | push front stage => front.system.push stage.system

def leaves : Composition R V → List (Leaf R V)
  | leaf l => [l]
  | empty => []
  | pipe first second => first.leaves ++ second.leaves
  | append front next => front.leaves ++ next.leaves
  | appendSome front next => front.leaves ++ next.leaves
  | appendNone front => front.leaves
  | push front stage => front.leaves ++ stage.leaves

def Pushless : Composition R V → Prop
  | leaf _ => True
  | empty => True
  | pipe first second => first.Pushless ∧ second.Pushless
  | append front next => front.Pushless ∧ next.Pushless
  | appendSome front next => front.Pushless ∧ next.Pushless
  | appendNone front => front.Pushless
  | push _ _ => False

end Composition

namespace System

lemma pipe_eq_append (first second : System R V) : first.pipe second = first.append second := by
  simp [pipe, chain, append]

lemma stages_append (front next : System R V) : (front.append next).stages = front.stages ++ next.stages := rfl

lemma pipe_assoc (a b c : System R V) : (a.pipe b).pipe c = a.pipe (b.pipe c) := by
  simp only [pipe_eq_append, append, stages, List.append_assoc]

lemma leaves_append (front next : System R V) : (front.append next).leaves = front.leaves ++ next.leaves := by
  rw [append, leaves_pipeline, List.flatMap_append, flatMap_leaves_stages, flatMap_leaves_stages]

lemma leaves_chain (systems : List (System R V)) : (chain systems).leaves = systems.flatMap leaves := by
  rw [chain, leaves_pipeline, List.flatMap_assoc]
  exact List.flatMap_congr fun system _ => flatMap_leaves_stages system

lemma run_chain (c : Client) (systems : List (System R V)) :
    run c (chain systems) = Outcome.inOrder (systems.map (run c)) := by
  rw [Outcome.inOrder_flatMap fun system _ => run_eq_leaves c system, run_eq_leaves, leaves_chain, List.map_flatMap]

lemma run_pipe (c : Client) (first second : System R V) (s : Store R V) :
    run c (first.pipe second) s = (run c first s).andThen (run c second) := by
  rw [pipe, run_chain]
  exact congrArg _ (funext fun s => Outcome.inOrder_singleton _ s)

lemma leaves_push (front stage : System R V) : (front.push stage).leaves = front.leaves ++ stage.leaves := by
  rw [push, leaves_pipeline, List.flatMap_append, flatMap_leaves_stages, List.flatMap_singleton]

end System

namespace Composition

lemma leaves_system (t : Composition R V) : t.system.leaves = t.leaves := by
  induction t with
  | leaf l => exact System.leaves_leaf l
  | empty => rfl
  | pipe first second ih₁ ih₂ => rw [system, System.pipe_eq_append, System.leaves_append, ih₁, ih₂, leaves]
  | append front next ih₁ ih₂ => rw [system, System.leaves_append, ih₁, ih₂, leaves]
  | appendSome front next ih₁ ih₂ => rw [system, System.appendSome, System.leaves_append, ih₁, ih₂, leaves]
  | appendNone front ih => exact ih
  | push front stage ih₁ ih₂ => rw [system, System.leaves_push, ih₁, ih₂, leaves]

lemma Pushless.stages_eq {t : Composition R V} (h : t.Pushless) : t.system.stages = t.leaves.map Leaf.system := by
  induction t with
  | leaf l => cases l <;> rfl
  | empty => rfl
  | pipe first second ih₁ ih₂ =>
    rw [system, System.pipe_eq_append, System.stages_append, ih₁ h.1, ih₂ h.2, leaves, List.map_append]
  | append front next ih₁ ih₂ => rw [system, System.stages_append, ih₁ h.1, ih₂ h.2, leaves, List.map_append]
  | appendSome front next ih₁ ih₂ =>
    rw [system, System.appendSome, System.stages_append, ih₁ h.1, ih₂ h.2, leaves, List.map_append]
  | appendNone front ih => exact ih h
  | push front stage => exact h.elim

lemma leaves_map_system (ls : List (Leaf R V)) : (System.pipeline (ls.map Leaf.system)).leaves = ls := by
  rw [System.leaves_pipeline, List.flatMap_map]
  simp only [System.leaves_leaf]
  exact List.flatMap_singleton' ls

lemma signature_eq {signature : System R V → List Schema} (hm : System.Merges signature) {t : Composition R V}
    {stages : List (System R V)} (h : t.system = .pipeline stages) :
    signature t.system = signature (.pipeline (t.leaves.map Leaf.system)) := by
  have hleaves := t.leaves_system
  rw [h] at hleaves
  rw [h, hm.pipeline_eq stages, hm.pipeline_eq (t.leaves.map Leaf.system), leaves_map_system, hleaves]

theorem flatten (t : Composition R V) (stages : List (System R V)) (h : t.system = .pipeline stages) :
    (∀ c s, System.run c t.system s = Outcome.inOrder (t.leaves.map fun l => System.run c l.system) s) ∧
    (t.system.referencedInputs = (System.pipeline (t.leaves.map Leaf.system)).referencedInputs ∧
      (t.system.referencedInputs.map Schema.id).Nodup) ∧
    (t.system.effects = (System.pipeline (t.leaves.map Leaf.system)).effects ∧
      (t.system.effects.map Schema.id).Nodup) ∧
    (t.Pushless → ∀ u : Composition R V, u.Pushless → u.leaves = t.leaves → u.system.stages = t.system.stages) ∧
    ∀ a b c : System R V, (a.pipe b).pipe c = a.pipe (b.pipe c) := by
  refine ⟨fun c s => ?_, ⟨?_, ?_⟩, ⟨?_, ?_⟩, fun ht u hu hleaves => ?_, System.pipe_assoc⟩
  · rw [System.run_eq_leaves, leaves_system]
  · exact signature_eq System.merges_referencedInputs h
  · rw [h]
    exact System.merges_referencedInputs.nodup stages
  · exact signature_eq System.merges_effects h
  · rw [h]
    exact System.merges_effects.nodup stages
  · rw [hu.stages_eq, hleaves, ht.stages_eq]

theorem flatten_cool_warm : ∃ (t : Composition Nat Tokens) (stages : List (System Nat Tokens)),
    t.system = .pipeline stages ∧ stages.length = 3 ∧ t.leaves.length = 4 ∧
    (∀ c s, System.run c t.system s = Outcome.inOrder (t.leaves.map fun l => System.run c l.system) s) ∧
    t.system.referencedInputs = [.scalar "heat" .f64, .scalar "mass" .f64] ∧
    t.system.effects = [.scalar "heat" .f64] := by
  let mass : Schema := .scalar "mass" .f64
  let heat : Schema := .scalar "heat" .f64
  let cool : Leaf Nat Tokens := .map ⟨"cool", [heat], heat, fun (v, _) => v⟩
  let warm : Leaf Nat Tokens := .map ⟨"warm", [mass, heat], heat, fun (_, v, _) => v⟩
  let t : Composition Nat Tokens :=
    .push (.append .empty (.pipe (.leaf cool) (.leaf warm))) (.pipe (.leaf warm) (.leaf cool))
  obtain ⟨hrun, ⟨hinputs, _⟩, ⟨heffects, _⟩, _⟩ := flatten t _ rfl
  refine ⟨t, _, rfl, rfl, rfl, hrun, ?_, ?_⟩
  · rw [hinputs]
    decide +kernel
  · rw [heffects]
    decide +kernel

end Composition

end ColumnSim
