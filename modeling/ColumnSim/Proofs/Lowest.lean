import ColumnSim.Globals
import ColumnSim.Proofs.Join

/-! The holder of a component with the lowest id. It is the one that queries find first. -/

namespace ColumnSim

lemma Schema.pack_unpack {R : Type} {name : String} {kind : ElemKind} (v : (scalar name kind).Value R) :
    pack (unpack v) = v := by
  apply Vector.ext
  intro i hi
  obtain rfl : i = 0 := Nat.lt_one_iff.1 hi
  rfl

namespace Store

variable {R : Type} {V : AssetKind → Type} {s u : Store R V} {e f : EntityId} {c : ComponentId} {schema : Schema}

structure Lowest (s : Store R V) (c : ComponentId) (e : EntityId) : Prop where
  holds : s.Holds e c
  le : ∀ f, s.Holds f c → e.raw ≤ f.raw

lemma agrees_of_get {v : Option (schema.Value R)} (h : s.get schema e = .ok v) : s.Agrees schema := by
  obtain ⟨hcheck, _⟩ := seq_eq_ok_iff.1 h
  exact checkSchema_eq_ok_iff.1 hcheck

lemma Lowest.eq (he : s.Lowest c e) (hf : s.Lowest c f) : e = f :=
  congrArg EntityId.mk (Nat.le_antisymm (he.le f hf.holds) (hf.le e he.holds))

lemma Refills.lowest_iff (h : s.Refills u) (hs : s.Valid) : u.Lowest c e ↔ s.Lowest c e := by
  have hholds := fun f => h.holds_iff hs f c
  exact ⟨fun hl => ⟨(hholds e).1 hl.holds, fun f hf => hl.le f ((hholds f).2 hf)⟩,
    fun hl => ⟨(hholds e).2 hl.holds, fun f hf => hl.le f ((hholds f).1 hf)⟩⟩

namespace Valid

variable (hs : s.Valid) (ha : s.Agrees schema)

include hs ha

lemma mem_join_singleton_iff {v : schema.Value R} : (e, (v, ())) ∈ s.join [schema] ↔ s.get schema e = .ok (some v) := by
  rw [hs.mem_join_iff (List.cons_ne_nil _ _) (List.forall_mem_singleton.2 ha), Row.Reads, Row.Reads, and_true]

lemma exists_get_iff : (∃ v, s.get schema e = .ok (some v)) ↔ s.Holds e schema.id := by
  rw [get_eq_ok ha, ← hs.value?_isSome_iff ha, Option.isSome_iff_exists]
  simp

omit ha in
lemma holds_of_get {v : schema.Value R} (h : s.get schema e = .ok (some v)) : s.Holds e schema.id :=
  (hs.exists_get_iff (agrees_of_get h)).1 ⟨v, h⟩

lemma not_holds_of_join_nil (h : s.join [schema] = []) (e : EntityId) : ¬s.Holds e schema.id := by
  intro he
  obtain ⟨v, hv⟩ := (hs.exists_get_iff ha).2 he
  have hm := (hs.mem_join_singleton_iff ha).2 hv
  rw [h] at hm
  cases hm

lemma lowest_of_join_cons {v : schema.Value R} {rows : List (EntityId × Row R [schema])}
    (h : s.join [schema] = (e, (v, ())) :: rows) : s.Lowest schema.id e ∧ s.get schema e = .ok (some v) := by
  have hget := (hs.mem_join_singleton_iff ha).1 (h ▸ List.mem_cons_self ..)
  refine ⟨⟨(hs.exists_get_iff ha).1 ⟨v, hget⟩, fun f hf => ?_⟩, hget⟩
  obtain ⟨w, hw⟩ := (hs.exists_get_iff ha).2 hf
  have hm := (hs.mem_join_singleton_iff ha).2 hw
  have hsorted := hs.join_strict (List.cons_ne_nil _ _) (List.forall_mem_singleton.2 ha)
  rw [h] at hm hsorted
  rcases List.mem_cons.1 hm with heq | hm
  · exact Nat.le_of_eq (congrArg (·.1.raw) heq).symm
  · exact Nat.le_of_lt ((List.pairwise_cons.1 hsorted).1 _ hm)

lemma exists_lowest (h : s.Holds e schema.id) : ∃ f, s.Lowest schema.id f := by
  cases hj : s.join [schema] with
  | nil => exact (hs.not_holds_of_join_nil ha hj e h).elim
  | cons entry rows =>
    obtain ⟨f, v, ⟨⟩⟩ := entry
    exact ⟨f, (hs.lowest_of_join_cons ha hj).1⟩

end Valid

namespace Valid

variable (hs : s.Valid) (ha : s.Agrees .timeStep) (hl : s.Lowest Schema.timeStep.id e)

include hs ha hl

lemma timeStep_eq {v : Schema.timeStep.Value R} (hv : s.get .timeStep e = .ok (some v)) :
    s.timeStep = .ok (Schema.unpack v) := by
  rw [timeStep, query_eq_ok (List.forall_mem_singleton.2 ha)]
  cases hj : s.join [.timeStep] with
  | nil => exact (hs.not_holds_of_join_nil ha hj e hl.holds).elim
  | cons entry rows =>
    obtain ⟨f, w, ⟨⟩⟩ := entry
    obtain ⟨hf, hw⟩ := hs.lowest_of_join_cons ha hj
    rw [hf.eq hl, hv] at hw
    cases hw
    rfl

lemma timeStep_congr (hu : u.Valid) (hau : u.Agrees .timeStep) (hlu : u.Lowest Schema.timeStep.id e)
    (h : u.get .timeStep e = s.get .timeStep e) : u.timeStep = s.timeStep := by
  obtain ⟨v, hv⟩ := (hs.exists_get_iff ha).2 hl.holds
  rw [hs.timeStep_eq ha hl hv, hu.timeStep_eq hau hlu (h.trans hv)]

omit ha hl in
lemma timeStep_eq_ok_iff {x : R} : s.timeStep = .ok x ↔
    ∃ e, s.Lowest Schema.timeStep.id e ∧ s.get .timeStep e = .ok (some (Schema.pack x)) := by
  constructor
  · intro h
    obtain ⟨q, hq, hrows⟩ := bind_eq_ok_iff.1 h
    obtain ⟨hagrees, rfl⟩ := agrees_of_query hq
    cases hj : s.join [.timeStep] with
    | nil =>
      rw [hj] at hrows
      cases hrows
    | cons entry rows =>
      obtain ⟨e, v, ⟨⟩⟩ := entry
      rw [hj] at hrows
      cases hrows
      obtain ⟨hl, hget⟩ := hs.lowest_of_join_cons (List.forall_mem_singleton.1 hagrees) hj
      exact ⟨e, hl, by rw [hget, Schema.pack_unpack]⟩
  · rintro ⟨e, hl, hget⟩
    exact hs.timeStep_eq (agrees_of_get hget) hl hget

end Valid

end Store

end ColumnSim
