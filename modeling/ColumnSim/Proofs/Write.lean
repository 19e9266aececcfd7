import ColumnSim.Proofs.Insert

namespace ColumnSim

variable {R : Type} {V : AssetKind → Type}

def lastOf? {K A : Type} [DecidableEq K] (entries : List (K × A)) (k : K) : Option A :=
  (entries.reverse.find? fun entry => entry.1 = k).map (·.2)

lemma lastOf?_cons {K A : Type} [DecidableEq K] (j : K) (a : A) (entries : List (K × A)) (k : K) :
    lastOf? ((j, a) :: entries) k = (lastOf? entries k).or (if j = k then some a else none) := by
  rw [lastOf?, List.reverse_cons, List.find?_append, Option.map_or]
  by_cases hj : j = k <;> simp [lastOf?, hj]

lemma lastOf?_eq_some_iff {K A : Type} [DecidableEq K] {entries : List (K × A)}
    (h : (entries.map (·.1)).Nodup) {k : K} {a : A} : lastOf? entries k = some a ↔ (k, a) ∈ entries := by
  have hr : (entries.reverse.map (·.1)).Nodup := by
    rw [List.map_reverse, List.nodup_reverse]
    exact h
  simp only [lastOf?, Option.map_eq_some_iff, find?_eq_some_iff_mem hr, List.mem_reverse]
  constructor
  · rintro ⟨⟨_, _⟩, ⟨hm, rfl⟩, rfl⟩
    exact hm
  · exact fun hm => ⟨(k, a), ⟨hm, rfl⟩, rfl⟩

lemma lastOf?_eq_none {K A : Type} [DecidableEq K] {entries : List (K × A)} {k : K} (h : k ∉ entries.map (·.1)) :
    lastOf? entries k = none := by
  simp only [lastOf?, Option.map_eq_none_iff, List.find?_eq_none, List.mem_reverse, decide_eq_true_eq]
  exact fun entry hm hk => h (hk ▸ List.mem_map_of_mem hm)

lemma lastOf?_eq_of_last {K A : Type} [DecidableEq K] {entries : List (K × A)} {j : Nat} {k : K} {a : A}
    (hj : entries[j]? = some (k, a)) (hlast : ∀ i, j < i → (entries.map (·.1))[i]? ≠ some k) :
    lastOf? entries k = some a := by
  induction entries generalizing j with
  | nil => cases hj
  | cons entry entries ih =>
    obtain ⟨l, b⟩ := entry
    rw [lastOf?_cons]
    cases j with
    | zero =>
      cases hj
      have hrest : k ∉ entries.map (·.1) := fun hm => by
        obtain ⟨i, hi⟩ := List.mem_iff_getElem?.1 hm
        exact hlast (i + 1) (Nat.succ_pos i) hi
      simp [lastOf?_eq_none hrest]
    | succ j => simp [ih hj fun i hi => hlast (i + 1) (Nat.succ_lt_succ hi)]

lemma mapM_eq_ok_iff {A B : Type} {f : A → Except Error B} {xs : List A} {ys : List B} :
    xs.mapM f = .ok ys ↔ List.Forall₂ (fun x y => f x = .ok y) xs ys := by
  induction xs generalizing ys with
  | nil =>
    rw [List.mapM_nil, List.forall₂_nil_left_iff]
    exact ⟨fun h => by cases h; rfl, fun h => by cases h; rfl⟩
  | cons x xs ih =>
    rw [List.mapM_cons, List.forall₂_cons_left_iff, bind_eq_ok_iff]
    apply exists_congr
    intro y
    simp only [bind_eq_ok_iff, ih]
    constructor
    · rintro ⟨hx, zs, hxs, hz⟩
      cases hz
      exact ⟨zs, hx, hxs, rfl⟩
    · rintro ⟨zs, hx, hxs, rfl⟩
      exact ⟨hx, zs, hxs, rfl⟩

lemma exists_mapM_eq_ok {A B : Type} {f : A → Except Error B} {xs : List A} (h : ∀ x ∈ xs, ∃ y, f x = .ok y) :
    ∃ ys, xs.mapM f = .ok ys := by
  simp only [mapM_eq_ok_iff]
  induction xs with
  | nil => exact ⟨[], .nil⟩
  | cons x xs ih =>
    obtain ⟨y, hy⟩ := h x (List.mem_cons_self ..)
    obtain ⟨ys, hys⟩ := ih fun z hz => h z (List.mem_cons_of_mem _ hz)
    exact ⟨y :: ys, .cons hy hys⟩

lemma mapM_eq_error {A B : Type} {f : A → Except Error B} {front back : List A} {x : A} {e : Error}
    (hfront : ∀ y ∈ front, ∃ z, f y = .ok z) (hx : f x = .error e) : (front ++ x :: back).mapM f = .error e := by
  induction front with
  | nil =>
    rw [List.nil_append, List.mapM_cons, hx]
    rfl
  | cons y front ih =>
    obtain ⟨z, hz⟩ := hfront y (List.mem_cons_self ..)
    rw [List.cons_append, List.mapM_cons, hz, ih fun w hw => hfront w (List.mem_cons_of_mem _ hw)]
    rfl

namespace Store

variable {s u : Store R V} {schema : Schema} {e f : EntityId} {c : ComponentId} {p : Placement}

lemma target_eq_ok_iff :
    s.target schema e = .ok p ↔ s.entities.contains e = true ∧ s.locate? e schema.id = some p := by
  rw [target]
  cases s.entities.contains e with
  | false => simp
  | true => cases s.locate? e schema.id <;> simp

lemma target_eq_error (hl : s.locate? e schema.id = none) : s.target schema e =
    .error (if s.entities.contains e then .missingOutput e schema.name else .neverSpawned e) := by
  rw [target, hl]
  split <;> rfl

lemma Valid.exists_target_iff (hs : s.Valid) :
    (∃ p, s.target schema e = .ok p) ↔ s.Holds e schema.id := by
  rw [hs.holds_iff]
  refine exists_congr fun p => target_eq_ok_iff.trans (and_iff_right_of_imp fun hp => ?_)
  exact hs.spawned (hs.locate?_eq_some_iff.1 hp).1

lemma outline_setAll (s : Store R V) (entries : List (Placement × schema.Value R)) :
    (s.setAll schema entries).outline = s.outline := by
  induction entries generalizing s with
  | nil => rfl
  | cons entry entries ih => exact (ih _).trans (s.outline_set schema entry.1 entry.2)

namespace Valid

lemma set (hs : s.Valid) (schema : Schema) (p : Placement) (v : schema.Value R) : (s.set schema p v).Valid := by
  apply hs.of_outline (s.outline_set schema p v)
  intro t table ht
  rw [tables_set] at ht
  split at ht
  · obtain ⟨old, hold, rfl⟩ := Option.map_eq_some_iff.1 ht
    exact (hs.tables hold).set _ _ _
  · exact hs.tables ht

lemma setAll (hs : s.Valid) (entries : List (Placement × schema.Value R)) : (s.setAll schema entries).Valid := by
  induction entries generalizing s with
  | nil => exact hs
  | cons entry entries ih => exact ih (hs.set schema entry.1 entry.2)

lemma cell?_set (hs : s.Valid) (ha : s.Agrees schema) (hp : s.locate? e schema.id = some p) (v : schema.Value R) :
    (s.set schema p v).cell? f c = if f = e ∧ c = schema.id then some (.ofValue v) else s.cell? f c := by
  obtain ⟨he, hc⟩ := hs.locate?_eq_some_iff.1 hp
  obtain ⟨table, ht, hcol⟩ := stores_iff.1 hc
  have hv := hs.tables ht
  obtain ⟨col, hcol⟩ := hv.hasColumn_iff_column?.1 hcol
  obtain ⟨hm, hid⟩ := hv.column?_eq_some_iff.1 hcol
  obtain ⟨registered, hr, hl⟩ := hs.layouts ht (List.mem_map_of_mem hm)
  have hlayout : col.schema.layout = schema.layout := hl.symm.trans (ha registered (hid ▸ hr))
  have hlocate : (s.set schema p v).locate? f c = s.locate? f c :=
    locate?_of_outline (s.outline_set schema p v) f c
  have hset := fun q => cellAt?_set (p := q) (c := c) (v := v) ht hv hcol hlayout (row_lt_size ht he)
  simp only [cell?, hlocate, hset]
  by_cases hfc : f = e ∧ c = schema.id
  · obtain ⟨rfl, rfl⟩ := hfc
    simp [hp]
  · cases hq : s.locate? f c with
    | none => simp [hfc]
    | some q =>
      have hne : ¬(q = p ∧ c = schema.id) := by
        rintro ⟨rfl, rfl⟩
        have hf := (hs.locate?_eq_some_iff.1 hq).1
        rw [he] at hf
        cases hf
        exact hfc ⟨rfl, rfl⟩
      simp [hfc, hne]

lemma cell?_setAll (hs : s.Valid) (ha : s.Agrees schema) {es : List EntityId} {targets : List Placement}
    {vs : List (schema.Value R)} (ht : List.Forall₂ (fun e p => s.locate? e schema.id = some p) es targets)
    (hlen : es.length = vs.length) :
    (s.setAll schema (targets.zip vs)).cell? f c =
      if c = schema.id then ((lastOf? (es.zip vs) f).map .ofValue).or (s.cell? f c) else s.cell? f c := by
  induction es generalizing s targets vs with
  | nil =>
    cases ht
    simp [Store.setAll, lastOf?]
  | cons e es ih =>
    obtain ⟨p, rest, hp, hr, rfl⟩ := List.forall₂_cons_left_iff.1 ht
    cases vs with
    | nil => cases hlen
    | cons v vs =>
      -- Setting a value moves no entity, so that the other targets stand.
      have hrest : List.Forall₂ (fun g q => (s.set schema p v).locate? g schema.id = some q) es rest := by
        apply hr.imp
        intro g q hq
        rw [locate?_of_outline (s.outline_set schema p v), hq]
      have hstep := hs.cell?_set (f := f) (c := c) ha hp v
      have hih := ih (hs.set schema p v) ha hrest (Nat.succ.inj hlen)
      have hfirst : s.setAll schema ((p :: rest).zip (v :: vs)) =
        (s.set schema p v).setAll schema (rest.zip vs) := rfl
      rw [hfirst, hih, hstep, List.zip_cons_cons, lastOf?_cons]
      by_cases hc : c = schema.id
      · simp only [hc, if_true, and_true, Option.map_or, Option.or_assoc]
        by_cases hf : f = e
        · simp [hf]
        · simp [hf, Ne.symm hf]
      · simp [hc]

end Valid

section Write

variable {es : List EntityId} {vs : List (schema.Value R)}

lemma write_eq_ok_iff : s.write schema es vs = .ok u ↔ es.length = vs.length ∧ s.Agrees schema ∧
    ∃ targets, es.mapM (s.target schema) = .ok targets ∧ u = s.setAll schema (targets.zip vs) := by
  rw [write]
  simp only [unless_eq_ok_iff, seq_eq_ok_iff, checkSchema_eq_ok_iff, not_not]
  refine and_congr_right fun _ => and_congr_right fun _ => ?_
  rw [bind_eq_ok_iff]
  refine exists_congr fun targets => and_congr_right fun _ => ?_
  exact ⟨fun h => by cases h; rfl, fun h => by rw [h]; rfl⟩

lemma outline_write (h : s.write schema es vs = .ok u) : u.outline = s.outline := by
  obtain ⟨_, _, targets, _, rfl⟩ := write_eq_ok_iff.1 h
  exact outline_setAll s _

lemma exists_write (hlen : es.length = vs.length) (ha : s.Agrees schema)
    (hes : ∀ e ∈ es, ∃ p, s.target schema e = .ok p) : ∃ u, s.write schema es vs = .ok u := by
  obtain ⟨targets, ht⟩ := exists_mapM_eq_ok hes
  exact ⟨_, write_eq_ok_iff.2 ⟨hlen, ha, targets, ht, rfl⟩⟩

lemma write_eq_target_error {front back : List EntityId} {error : Error} (hlen : es.length = vs.length)
    (ha : s.Agrees schema) (hes : es = front ++ e :: back) (hfront : ∀ f ∈ front, ∃ p, s.target schema f = .ok p)
    (he : s.target schema e = .error error) : s.write schema es vs = .error error := by
  rw [write, if_neg (not_not.2 hlen), checkSchema_eq_ok_iff.2 ha, hes, mapM_eq_error hfront he]
  rfl

namespace Valid

lemma write (hs : s.Valid) (h : s.write schema es vs = .ok u) : u.Valid := by
  obtain ⟨_, _, targets, _, rfl⟩ := write_eq_ok_iff.1 h
  exact hs.setAll _

lemma cell?_write (hs : s.Valid) (h : s.write schema es vs = .ok u) :
    u.cell? f c = if c = schema.id then ((lastOf? (es.zip vs) f).map .ofValue).or (s.cell? f c) else s.cell? f c := by
  obtain ⟨hlen, ha, targets, ht, rfl⟩ := write_eq_ok_iff.1 h
  exact hs.cell?_setAll ha ((mapM_eq_ok_iff.1 ht).imp fun _ _ hp => (target_eq_ok_iff.1 hp).2) hlen

end Valid

end Write

structure Refills (s u : Store R V) : Prop where
  valid : u.Valid
  outline : u.outline = s.outline

namespace Refills

lemma refl (hs : s.Valid) : s.Refills s := ⟨hs, rfl⟩

lemma trans {v : Store R V} (h : s.Refills u) (hv : u.Refills v) : s.Refills v := ⟨hv.valid, hv.outline.trans h.outline⟩

lemma write {es : List EntityId} {vs : List (schema.Value R)} (hs : s.Valid) (h : s.write schema es vs = .ok u) :
    s.Refills u :=
  ⟨hs.write h, outline_write h⟩

lemma holds_iff (h : s.Refills u) (hs : s.Valid) (e : EntityId) (c : ComponentId) : u.Holds e c ↔ s.Holds e c := by
  rw [h.valid.holds_iff, hs.holds_iff, locate?_of_outline h.outline]

lemma agrees_iff (h : s.Refills u) : u.Agrees schema ↔ s.Agrees schema := by
  rw [Agrees, Agrees, schema?_of_outline h.outline]

end Refills

end Store

end ColumnSim
