import ColumnSim.Proofs.FirstById
import ColumnSim.System.Pipeline

/-! The leaves of a system: what is left of it when all pipelines in it are dissolved. -/

namespace ColumnSim

variable {R : Type} {V : AssetKind → Type}

inductive Leaf (R : Type) (V : AssetKind → Type)
  | map (m : MapSystem R)
  | fold (f : FoldSystem R)
  | procedure (p : Procedure R V)

def Leaf.system : Leaf R V → System R V
  | map m => .map m
  | fold f => .fold f
  | procedure p => .procedure p

namespace Outcome

variable {S A : Type}

lemma inOrder_singleton (step : S → Outcome S Unit) (s : S) : inOrder [step] s = step s := by
  rw [inOrder]
  obtain ⟨_ | _, t⟩ := step s <;> rfl

lemma inOrder_cons_eq_ok_iff {step : S → Outcome S Unit} {steps : List (S → Outcome S Unit)} {s u : S} :
    inOrder (step :: steps) s = (.ok (), u) ↔ ∃ t, step s = (.ok (), t) ∧ inOrder steps t = (.ok (), u) := by
  rw [inOrder]
  obtain ⟨_ | _, t⟩ := step s <;> simp [andThen]

lemma inOrder_flatMap {f : A → S → Outcome S Unit} {g : A → List (S → Outcome S Unit)} {as : List A}
    (h : ∀ a ∈ as, f a = inOrder (g a)) : inOrder (as.map f) = inOrder (as.flatMap g) := by
  induction as with
  | nil => rfl
  | cons a as ih =>
    obtain ⟨ha, has⟩ := List.forall_mem_cons.1 h
    funext s
    rw [List.map_cons, List.flatMap_cons, inOrder_append, inOrder, ha, ih has]

end Outcome

namespace System

mutual

def leaves : System R V → List (Leaf R V)
  | map m => [.map m]
  | fold f => [.fold f]
  | procedure p => [.procedure p]
  | pipeline ss => leavesOf ss

def leavesOf : List (System R V) → List (Leaf R V)
  | [] => []
  | s :: ss => leaves s ++ leavesOf ss

end

lemma leaves_pipeline (stages : List (System R V)) : (pipeline stages).leaves = stages.flatMap leaves := by
  rw [leaves]
  induction stages with
  | nil => rfl
  | cons s stages ih => rw [leavesOf, ih, List.flatMap_cons]

lemma leaves_leaf (l : Leaf R V) : l.system.leaves = [l] := by cases l <;> rfl

lemma flatMap_leaves_stages (s : System R V) : s.stages.flatMap leaves = s.leaves := by
  cases s with
  | pipeline ss => exact (leaves_pipeline ss).symm
  | _ => rfl

mutual

lemma leafInduction {P : System R V → Prop} (leaf : ∀ l : Leaf R V, P l.system)
    (pipeline : ∀ stages, (∀ s ∈ stages, P s) → P (.pipeline stages)) : ∀ s, P s
  | map m => leaf (.map m)
  | fold f => leaf (.fold f)
  | procedure p => leaf (.procedure p)
  | .pipeline stages => pipeline stages (leafInductionOf leaf pipeline stages)

lemma leafInductionOf {P : System R V → Prop} (leaf : ∀ l : Leaf R V, P l.system)
    (pipeline : ∀ stages, (∀ s ∈ stages, P s) → P (.pipeline stages)) : ∀ stages : List (System R V), ∀ s ∈ stages, P s
  | [] => List.forall_mem_nil _
  | s :: stages => List.forall_mem_cons.2 ⟨leafInduction leaf pipeline s, leafInductionOf leaf pipeline stages⟩

end

lemma run_eq_leaves (c : Client) (system : System R V) :
    run c system = Outcome.inOrder (system.leaves.map fun l => run c l.system) := by
  induction system using leafInduction with
  | leaf l =>
    funext s
    rw [leaves_leaf, List.map_singleton, Outcome.inOrder_singleton]
  | pipeline stages ih =>
    have hstages : run c (pipeline stages) = Outcome.inOrder (stages.map (run c)) :=
      funext fun s => runStages_eq_inOrder c stages s
    rw [hstages, Outcome.inOrder_flatMap ih, leaves_pipeline, List.map_flatMap]

def Merges (signature : System R V → List Schema) : Prop :=
  ∀ stages, signature (.pipeline stages) = Schema.firstById [] (stages.flatMap signature)

lemma merges_referencedInputs : Merges (referencedInputs (R := R) (V := V)) := by
  have hall : ∀ stages : List (System R V), allReferencedInputs stages = stages.flatMap referencedInputs := by
    intro stages
    induction stages with
    | nil => rfl
    | cons s stages ih => rw [allReferencedInputs, ih, List.flatMap_cons]
  intro stages
  rw [referencedInputs, hall]

lemma merges_effects : Merges (effects (R := R) (V := V)) := by
  have hall : ∀ stages : List (System R V), allEffects stages = stages.flatMap effects := by
    intro stages
    induction stages with
    | nil => rfl
    | cons s stages ih => rw [allEffects, ih, List.flatMap_cons]
  intro stages
  rw [effects, hall]

section Merges

variable {signature : System R V → List Schema} (h : Merges signature)

include h

lemma Merges.firstById_leaves (s : System R V) (seen : List ComponentId) : Schema.firstById seen (signature s) =
    Schema.firstById seen (s.leaves.flatMap fun l => signature l.system) := by
  induction s using leafInduction generalizing seen with
  | leaf l => rw [leaves_leaf, List.flatMap_singleton]
  | pipeline stages ih =>
    rw [h, Schema.firstById_firstById (List.forall_mem_nil _), Schema.firstById_flatMap ih, leaves_pipeline,
      List.flatMap_assoc]

lemma Merges.pipeline_eq (stages : List (System R V)) : signature (.pipeline stages) =
    Schema.firstById [] ((pipeline stages).leaves.flatMap fun l => signature l.system) := by
  have hfirst := h.firstById_leaves (.pipeline stages) []
  rwa [h, Schema.firstById_firstById (List.forall_mem_nil _), ← h] at hfirst

lemma Merges.nodup (stages : List (System R V)) : ((signature (.pipeline stages)).map Schema.id).Nodup := by
  rw [h]
  exact Schema.firstById_nodup _ _

end Merges

end System

end ColumnSim
