import ColumnSim.Proofs.Composition
import ColumnSim.Proofs.Determined
import ColumnSim.Proofs.Evaluation

/-! Independent systems. Maps and folds that write nothing the other one reads or writes can change places. -/

namespace ColumnSim

variable {R : Type} {V : AssetKind → Type} {s t u : Store R V}

structure System.Independent (a b : System R V) : Prop where
  left : ∀ x ∈ a.effects, ∀ y ∈ b.referencedInputs ++ b.effects, x.id ≠ y.id
  right : ∀ x ∈ b.effects, ∀ y ∈ a.referencedInputs ++ a.effects, x.id ≠ y.id

lemma System.Independent.symm {a b : System R V} (h : a.Independent b) : b.Independent a := ⟨h.right, h.left⟩

namespace Leaf

variable {a b : Leaf R V} {x y : Schema} {f : Store R V → Except Error (ColumnWrite R x)}
  {g : Store R V → Except Error (ColumnWrite R y)} {v : ColumnWrite R x} {w : ColumnWrite R y}

namespace Evaluates

variable (ha : a.Evaluates x f) (hb : b.Evaluates y g) (h : a.system.Independent b.system)

include ha hb h

lemma output_ne : x.id ≠ y.id := by
  apply h.left x (ha.effects ▸ List.mem_singleton.2 rfl)
  exact List.mem_append_right _ (hb.effects ▸ List.mem_singleton.2 rfl)

omit hb in
lemma reads_ne (hp : b.Plain) {schema : Schema} (hm : schema ∈ b.reads) : schema.id ≠ x.id := by
  obtain ⟨first, hfirst, hid⟩ := hp.exists_referenced hm
  have hne := h.left x (ha.effects ▸ List.mem_singleton.2 rfl) first (List.mem_append_left _ hfirst)
  exact fun heq => hne (heq.symm.trans hid.symm)

lemma run_pipe_eq_ok (hp : b.Plain) (hs : s.Valid) (hv : f s = .ok v) (hu : v.apply s = .ok u) (hw : g s = .ok w)
    (ht : w.apply s = .ok t) : ∃ r, (∀ c, System.run c (a.system.pipe b.system) s = (.ok (), r)) ∧ s.Refills r ∧
      ∀ e c, r.cell? e c = (w.cellOf? e c).or ((v.cellOf? e c).or (s.cell? e c)) := by
  have hsu : s.Refills u := ColumnWrite.refills hs hu
  have hkept : ∀ schema ∈ b.reads, ∀ e, u.cell? e schema.id = s.cell? e schema.id := fun schema hm e => by
    rw [ColumnWrite.cell?_apply hs hu, ColumnWrite.cellOf?_of_ne (ha.reads_ne h hp hm), Option.none_or]
  have hwu : g u = .ok w := (hb.congr hs hsu hkept).trans hw
  obtain ⟨r, hr⟩ := ColumnWrite.exists_apply hsu ht
  refine ⟨r, fun c => ?_, hsu.trans (ColumnWrite.refills hsu.valid hr), fun e c => ?_⟩
  · rw [System.run_pipe, ha.run_eq_ok_iff.2 ⟨v, hv, hu⟩]
    exact hb.run_eq_ok_iff.2 ⟨w, hwu, hr⟩
  · rw [ColumnWrite.cell?_apply hsu.valid hr, ColumnWrite.cell?_apply hs hu]

end Evaluates

theorem pipe_comm_of_independent (hs : s.Reachable) (ha : a.Plain) (hb : b.Plain)
    (h : a.system.Independent b.system) {c d : Client} (hra : System.run c a.system s = (.ok (), u))
    (hrb : System.run d b.system s = (.ok (), t)) :
    ∃ r, ∀ c, System.run c (a.system.pipe b.system) s = (.ok (), r) ∧
      System.run c (b.system.pipe a.system) s = (.ok (), r) := by
  obtain ⟨x, f, hf⟩ := ha.exists_evaluates
  obtain ⟨y, g, hg⟩ := hb.exists_evaluates
  obtain ⟨v, hv, hu⟩ := hf.run_eq_ok_iff.1 hra
  obtain ⟨w, hw, ht⟩ := hg.run_eq_ok_iff.1 hrb
  obtain ⟨r, hr, hsr, hcell⟩ := hf.run_pipe_eq_ok hg h hb hs.valid hv hu hw ht
  obtain ⟨q, hq, hsq, hcell'⟩ := hg.run_pipe_eq_ok hf h.symm ha hs.valid hw ht hv hu
  have hout : q.outline = r.outline := hsq.outline.trans hsr.outline.symm
  have heq : q = r := hsr.valid.eq_of_cells hsq.valid hout fun e c => by
    rw [hcell, hcell']
    -- One of the two writes does not touch the component.
    by_cases hc : c = x.id
    · have hne : c ≠ y.id := fun hy => hf.output_ne hg h (hc.symm.trans hy)
      rw [ColumnWrite.cellOf?_of_ne (w := w) hne, Option.none_or, Option.none_or]
    · rw [ColumnWrite.cellOf?_of_ne (w := v) hc, Option.none_or, Option.none_or]
  exact ⟨r, fun c => ⟨hr c, heq ▸ hq c⟩⟩

theorem pipe_comm_of_independent_warm_weigh : ∃ (s r : Store Nat Tokens) (warm weigh : Leaf Nat Tokens), s.Reachable ∧
    warm.Plain ∧ weigh.Plain ∧ warm.system.Independent weigh.system ∧
    (System.run .default warm.system s).1 = .ok () ∧ (System.run .default weigh.system s).1 = .ok () ∧
    System.run .default (warm.system.pipe weigh.system) s = (.ok (), r) ∧
    System.run .default (weigh.system.pipe warm.system) s = (.ok (), r) ∧
    r.get (.scalar "heat" .f64) ⟨1⟩ = .ok (some #v[12]) ∧ r.get (.scalar "load" .f64) ⟨0⟩ = .ok (some #v[13]) := by
  let mass : Schema := .scalar "mass" .f64
  let heat : Schema := .scalar "heat" .f64
  let load : Schema := .scalar "load" .f64
  let node (n : Nat) : Bundle Nat := (((Bundle.empty "node").add mass #v[n]).add heat #v[0]).add load #v[0]
  let edge (a b : Nat) : Bundle Nat := (Bundle.empty "edge").add Relation.edgeSchema (Relation.edgeValue ⟨a⟩ ⟨b⟩)
  let changes : List (Change Nat Tokens) :=
    [.spawn (node 5), .spawn (node 6), .spawn (node 7), .spawn (edge 0 2), .spawn (edge 0 1)]
  let s : Store Nat Tokens := Store.empty.applyAll changes
  let warm : Leaf Nat Tokens := .map ⟨"warm", [mass], heat, fun (v, _) => Schema.pack (2 * Schema.unpack v)⟩
  let weigh : Leaf Nat Tokens := .fold ⟨"weigh", .edge, [mass], [mass], load, #v[0],
    fun acc _ target => Schema.pack (Schema.unpack acc + Schema.unpack target.1)⟩
  have hs : s.Reachable := ⟨changes, rfl⟩
  have hplain : warm.Plain ∧ weigh.Plain := ⟨trivial, trivial⟩
  have h : warm.system.Independent weigh.system := ⟨by decide +kernel, by decide +kernel⟩
  have hwarm : (System.run .default warm.system s).1 = .ok () := by decide +kernel
  have hweigh : (System.run .default weigh.system s).1 = .ok () := by decide +kernel
  have hheat : (System.run .default (warm.system.pipe weigh.system) s).2.get heat ⟨1⟩ = .ok (some #v[12]) := by
    decide +kernel
  have hload : (System.run .default (warm.system.pipe weigh.system) s).2.get load ⟨0⟩ = .ok (some #v[13]) := by
    decide +kernel
  obtain ⟨r, hr⟩ := pipe_comm_of_independent hs hplain.1 hplain.2 h (Prod.ext hwarm rfl) (Prod.ext hweigh rfl)
  obtain ⟨hfirst, hsecond⟩ := hr .default
  rw [hfirst] at hheat hload
  exact ⟨s, r, warm, weigh, hs, hplain.1, hplain.2, h, hwarm, hweigh, hfirst, hsecond, hheat, hload⟩

end Leaf

end ColumnSim
