import ColumnSim.Proofs.Alike
import ColumnSim.Proofs.Evaluation
import ColumnSim.Proofs.Plan
import ColumnSim.Proofs.Runs

/-! Signatures. Pipelines of maps and folds write only what they declare, and depend only on what they declare. -/

namespace ColumnSim

variable {R : Type} {V : AssetKind → Type} {s u v w : Store R V} {schema : Schema} {ids : List ComponentId}
  {c d : Client}

lemma Outcome.inOrder_simulates {S A : Type} {P : S → S → Prop} {f g : A → S → Outcome S Unit} {xs : List A}
    {s u : S} (hstep : ∀ x ∈ xs, ∀ s u, P s u → (f x s).1 = (g x u).1 ∧ P (f x s).2 (g x u).2) (h : P s u) :
    (inOrder (xs.map f) s).1 = (inOrder (xs.map g) u).1 ∧ P (inOrder (xs.map f) s).2 (inOrder (xs.map g) u).2 := by
  induction xs generalizing s u with
  | nil => exact ⟨rfl, h⟩
  | cons x xs ih =>
    obtain ⟨hx, hxs⟩ := List.forall_mem_cons.1 hstep
    obtain ⟨hresult, hnext⟩ := hx s u h
    rw [List.map_cons, List.map_cons, inOrder, inOrder]
    rcases hf : f x s with ⟨_ | _, t⟩
    all_goals
      rcases hg : g x u with ⟨_ | _, v⟩
      all_goals
        rw [hf, hg] at hresult hnext
        cases hresult
    · exact ⟨rfl, hnext⟩
    · exact ih hxs hnext

namespace Store

/-- Stores of one plan that hold the same for some components, be the others what they may. -/
structure Mirrors (ids : List ComponentId) (s u : Store R V) : Prop where
  left : s.Valid
  right : u.Valid
  plan : s.SamePlan u
  contains : ∀ e, s.entities.contains e = u.entities.contains e
  cells : ∀ id ∈ ids, ∀ e, s.cell? e id = u.cell? e id

namespace Mirrors

variable (h : Mirrors ids s u)

include h

lemma query_eq {inputs : List Schema} (hinputs : ∀ schema ∈ inputs, schema.id ∈ ids) :
    s.query inputs = u.query inputs :=
  h.left.query_congr h.right h.plan.schema? fun schema hm => h.cells _ (hinputs schema hm)

lemma graph_eq {rel : Relation R} (hrel : rel.schema.id ∈ ids) : s.graph rel = u.graph rel :=
  graph_congr (h.query_eq (List.forall_mem_singleton.2 hrel)) fun _ => h.plan.stamp?_eq h.left h.right

lemma target_eq (e : EntityId) : s.target schema e = u.target schema e := by
  rw [target, target, h.contains, h.plan.locate?_eq h.left h.right]

lemma ending_write (es : List EntityId) (vs : List (schema.Value R)) :
    ending (s.write schema es vs) = ending (u.write schema es vs) :=
  ending_write_congr (checkSchema_congr (h.plan.schema? _)) fun e => congrArg ending (h.target_eq e)

lemma write {es : List EntityId} {vs : List (schema.Value R)} (hv : s.write schema es vs = .ok v)
    (hw : u.write schema es vs = .ok w) : Mirrors ids v w where
  left := h.left.write hv
  right := h.right.write hw
  plan := (SamePlan.of_outline (outline_write hv)).symm.trans (h.plan.trans (.of_outline (outline_write hw)))
  contains e := by
    obtain ⟨_, rfl⟩ := eq_of_outline (outline_write hv)
    obtain ⟨_, rfl⟩ := eq_of_outline (outline_write hw)
    exact h.contains e
  cells id hm e := by rw [h.left.cell?_write hv, h.right.cell?_write hw, h.cells id hm]

lemma ofStep_apply (x : ColumnWrite R schema) :
    (Outcome.ofStep s (x.apply s)).1 = (Outcome.ofStep u (x.apply u)).1 ∧
      Mirrors ids (Outcome.ofStep s (x.apply s)).2 (Outcome.ofStep u (x.apply u)).2 := by
  rw [ColumnWrite.apply, ColumnWrite.apply]
  split
  · exact ⟨rfl, h⟩
  · exact Outcome.ofStep_simulates (h.ending_write _ _) (fun _ _ hv hw => h.write hv hw) h

lemma exists_evaluate {l : Leaf R V} (hl : l.Plain) (hreads : ∀ schema ∈ l.reads, schema.id ∈ ids) (c d : Client) :
    ∃ (output : Schema) (x : Except Error (ColumnWrite R output)),
      System.run c l.system s = .ofStep s (x >>= fun w => w.apply s) ∧
      System.run d l.system u = .ofStep u (x >>= fun w => w.apply u) := by
  cases l with
  | map m =>
    have hquery : s.query m.inputs = u.query m.inputs := h.query_eq hreads
    have heval : m.evaluate c s = m.evaluate d u := by
      rw [m.evaluate_client c d, MapSystem.evaluate, MapSystem.evaluate, hquery]
    exact ⟨m.output, m.evaluate c s, rfl, by rw [heval]; rfl⟩
  | fold f =>
    obtain ⟨hrel, hinputs⟩ := List.forall_mem_cons.1 hreads
    obtain ⟨hleft, hright⟩ := List.forall_mem_append.1 hinputs
    have heval : f.evaluate c s = f.evaluate d u := by
      rw [f.evaluate_client c d, FoldSystem.evaluate, FoldSystem.evaluate, h.graph_eq hrel, h.query_eq hleft,
        h.query_eq hright]
    exact ⟨f.output, f.evaluate c s, rfl, by rw [heval]; rfl⟩
  | procedure p => exact hl.elim

lemma run_leaf {l : Leaf R V} (hl : l.Plain) (hreads : ∀ schema ∈ l.reads, schema.id ∈ ids) (c d : Client) :
    (System.run c l.system s).1 = (System.run d l.system u).1 ∧
      Mirrors ids (System.run c l.system s).2 (System.run d l.system u).2 := by
  obtain ⟨output, x, hs, hu⟩ := h.exists_evaluate hl hreads c d
  rw [hs, hu]
  cases x with
  | error error => exact ⟨rfl, h⟩
  | ok x => exact h.ofStep_apply x

end Mirrors

end Store

namespace System

variable {system : System R V} {l : Leaf R V}

lemma Merges.exists_mem {signature : System R V → List Schema} (h : Merges signature) (hl : l ∈ system.leaves)
    (hm : schema ∈ signature l.system) : ∃ first ∈ signature system, first.id = schema.id := by
  have hall : schema ∈ system.leaves.flatMap fun l => signature l.system := List.mem_flatMap.2 ⟨l, hl, hm⟩
  obtain ⟨first, hfirst, _, hid⟩ := Schema.exists_first_of_mem hall
  rw [← h.firstById_leaves] at hfirst
  exact ⟨first, (Schema.mem_of_firstById hfirst).1, hid⟩

lemma exists_referenced (hl : l ∈ system.leaves) (hp : l.Plain) (hm : schema ∈ l.reads) :
    ∃ first ∈ system.referencedInputs, first.id = schema.id := by
  obtain ⟨declared, hdeclared, hid⟩ := hp.exists_referenced hm
  obtain ⟨first, hfirst, hsame⟩ := merges_referencedInputs.exists_mem hl hdeclared
  exact ⟨first, hfirst, hsame.trans hid⟩

lemma run_frame (hp : ∀ l ∈ system.leaves, l.Plain) (hs : s.Valid) (c : Client) :
    s.Refills (run c system s).2 ∧ ∀ e id, id ∉ system.effects.map Schema.id →
      (run c system s).2.cell? e id = s.cell? e id := by
  rw [run_eq_leaves]
  apply Outcome.inOrder_invariant
    (P := fun t => s.Refills t ∧ ∀ e id, id ∉ system.effects.map Schema.id → t.cell? e id = s.cell? e id) ?_
    ⟨.refl hs, fun _ _ _ => rfl⟩
  rintro l hl t ⟨ht, hcells⟩
  rcases (hp l hl).eq_or_write ht.valid c with heq | ⟨output, hm, es, vs, hw⟩
  · rw [heq]
    exact ⟨ht, hcells⟩
  · refine ⟨ht.trans (.write ht.valid hw), fun e id hid => ?_⟩
    obtain ⟨effect, heffect, hsame⟩ := merges_effects.exists_mem hl hm
    rw [ht.valid.cell?_write hw, if_neg, hcells e id hid]
    rintro rfl
    exact hid (List.mem_map.2 ⟨effect, heffect, hsame⟩)

/-- What a pipeline of maps and folds declares is true of its runs, however they end: nothing but the cells of its
effects is changed, and its result and these cells are determined by the cells of its referenced inputs and effects. -/
theorem run_within_signature (hp : ∀ l ∈ system.leaves, l.Plain) (hs : s.Reachable) (c : Client) :
    ((run c system s).2.outline = s.outline ∧
      ∀ e id, id ∉ system.effects.map Schema.id → (run c system s).2.cell? e id = s.cell? e id) ∧
    ∀ (u : Store R V) (d : Client), u.Reachable → s.SamePlan u →
      (∀ schema ∈ system.referencedInputs ++ system.effects, ∀ e, s.cell? e schema.id = u.cell? e schema.id) →
        (run c system s).1 = (run d system u).1 ∧
          ∀ schema ∈ system.effects, ∀ e,
            (run c system s).2.cell? e schema.id = (run d system u).2.cell? e schema.id := by
  obtain ⟨hrefills, hcells⟩ := run_frame hp hs.valid c
  refine ⟨⟨hrefills.outline, hcells⟩, fun u d hu hplan hsame => ?_⟩
  have hstart : s.Mirrors ((system.referencedInputs ++ system.effects).map Schema.id) u :=
    ⟨hs.valid, hu.valid, hplan, hplan.contains_eq hs hu, List.forall_mem_map.2 hsame⟩
  have hreads : ∀ l ∈ system.leaves, ∀ schema ∈ l.reads,
      schema.id ∈ (system.referencedInputs ++ system.effects).map Schema.id := by
    intro l hl schema hm
    obtain ⟨first, hfirst, hid⟩ := exists_referenced hl (hp l hl) hm
    exact List.mem_map.2 ⟨first, List.mem_append_left _ hfirst, hid⟩
  rw [run_eq_leaves, run_eq_leaves]
  obtain ⟨hresult, hend⟩ := Outcome.inOrder_simulates
    (fun l hl s u h => Store.Mirrors.run_leaf h (hp l hl) (hreads l hl) c d) hstart
  exact ⟨hresult, fun schema hm => hend.cells _ (List.mem_map_of_mem (List.mem_append_right _ hm))⟩

theorem run_within_signature_mass : ∃ (s u : Store Nat Tokens) (system : System Nat Tokens) (c d : Client),
    s.Reachable ∧ u.Reachable ∧ (∀ l ∈ system.leaves, l.Plain) ∧ s.SamePlan u ∧
    s.get (.scalar "mass" .f64) ⟨0⟩ = .ok (some #v[1]) ∧ u.get (.scalar "mass" .f64) ⟨0⟩ = .ok (some #v[7]) ∧
    (run c system s).2.get (.scalar "heat" .f64) ⟨0⟩ = .ok (some #v[6]) ∧ (run c system s).2.outline = s.outline ∧
    (run c system s).1 = .error (.missingOutput ⟨0⟩ "cold") ∧ (run d system u).1 = .error (.missingOutput ⟨0⟩ "cold") ∧
    ∀ e, (run c system s).2.cell? e (.ofName "heat") = (run d system u).2.cell? e (.ofName "heat") := by
  let mass : Schema := .scalar "mass" .f64
  let heat : Schema := .scalar "heat" .f64
  let rock (x y : Nat) : Bundle Nat := ((Bundle.empty "rock").add heat (Schema.pack x)).add mass (Schema.pack y)
  let tie : Bundle Nat := (Bundle.empty "tie").add Relation.edgeSchema (Relation.edgeValue ⟨0⟩ ⟨1⟩)
  let warm : MapSystem Nat := ⟨"warm", [heat], heat, fun (v, _) => Schema.pack (Schema.unpack v + 1)⟩
  let pull : FoldSystem Nat := ⟨"pull", .edge, [heat], [heat], heat, Schema.pack 0,
    fun acc _ (v, _) => Schema.pack (Schema.unpack acc + Schema.unpack v)⟩
  let cool : MapSystem Nat := ⟨"cool", [heat], .scalar "cold" .f64, fun (v, _) => v⟩
  let system : System Nat Tokens := .pipeline [.map warm, .pipeline [.fold pull, .map cool]]
  let parallel : Client := ⟨.parallel, ⟨0, false⟩⟩
  let changes : List (Change Nat Tokens) := [.spawn (rock 1 1), .spawn (rock 5 2), .spawn tie]
  let s : Store Nat Tokens := Store.empty.applyAll changes
  have hs : s.Reachable := ⟨changes, rfl⟩
  have hp : ∀ l ∈ system.leaves, l.Plain :=
    List.forall_mem_cons.2 ⟨trivial, List.forall_mem_cons.2 ⟨trivial, List.forall_mem_singleton.2 trivial⟩⟩
  have hwrite : (s.write mass [⟨0⟩, ⟨1⟩] [Schema.pack 7, Schema.pack 8]).map (·.get mass ⟨0⟩) =
      .ok (.ok (some #v[7])) := by decide +kernel
  obtain ⟨u, hu, hmass⟩ := map_eq_ok_iff.1 hwrite
  have hother : ∀ schema ∈ system.referencedInputs ++ system.effects, schema.id ≠ mass.id := by decide +kernel
  have hsame : ∀ schema ∈ system.referencedInputs ++ system.effects, ∀ e, s.cell? e schema.id = u.cell? e schema.id :=
    fun schema hm e => by rw [hs.valid.cell?_write hu, if_neg (hother schema hm)]
  have hplan := Store.SamePlan.of_outline (Store.outline_write hu)
  obtain ⟨⟨houtline, _⟩, hboth⟩ := run_within_signature hp hs .default
  obtain ⟨hresult, heffects⟩ := hboth u parallel (hs.write hu) hplan hsame
  have herror : (run .default system s).1 = .error (.missingOutput ⟨0⟩ "cold") := by decide +kernel
  exact ⟨s, u, system, .default, parallel, hs, hs.write hu, hp, hplan, by decide +kernel, hmass, by decide +kernel,
    houtline, herror, hresult.symm.trans herror, heffects heat (by decide +kernel)⟩

end System

end ColumnSim
