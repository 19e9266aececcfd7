import ColumnSim.Random
import Mathlib.Logic.Function.Iterate
import Mathlib.Tactic.Common

/-! Samples drawn in turn: a shorter call draws the first samples of a longer one, from the same words of the stream. -/

namespace ColumnSim.Random

variable {S A : Type} {next : S → UInt64 × S} {s t : S} {n m i j : Nat} {xs : List A}

def skip (next : S → UInt64 × S) (n : Nat) (s : S) : S := (fun s => (next s).2)^[n] s

def word (next : S → UInt64 × S) (s : S) (i : Nat) : UInt64 := (next (skip next i s)).1

lemma skip_skip (n i : Nat) (s : S) : skip next i (skip next n s) = skip next (n + i) s := by
  rw [skip, skip, skip, Nat.add_comm, Function.iterate_add_apply]

lemma word_skip (n i : Nat) (s : S) : word next (skip next n s) i = word next s (n + i) := by
  rw [word, word, skip_skip]

section Draws

/-- The draw takes `width` words, and nothing but these decides which sample it is. -/
def Steps (next : S → UInt64 × S) (draw : StateM S A) (width : Nat) (f : (Nat → UInt64) → A) : Prop :=
  ∀ s, draw.run s = (f (word next s), skip next width s)

lemma Steps.samples {draw : StateM S A} {width : Nat} {f : (Nat → UInt64) → A} (h : Steps next draw width f)
    (n : Nat) (s : S) : (samples draw n).run s =
      ((List.range n).map fun i => f fun j => word next s (width * i + j), skip next (width * n) s) := by
  induction n generalizing s with
  | zero => rfl
  | succ n ih =>
    have hrest : (Random.samples draw (n + 1)).run s =
        (f (word next s) :: ((Random.samples draw n).run (skip next width s)).1,
          ((Random.samples draw n).run (skip next width s)).2) := by
      rw [Random.samples, StateT.run_bind, h]
      rfl
    have hnext (k : Nat) : width + width * k = width * (k + 1) := by rw [Nat.mul_succ, Nat.add_comm]
    rw [hrest, ih]
    simp only [word_skip, skip_skip, ← Nat.add_assoc, hnext, List.range_succ_eq_map, List.map_cons, List.map_map,
      Nat.mul_zero, Nat.zero_add]
    rfl

end Draws

section Returns

variable {draw : StateT S Option A} {u : S} {x : A} {ys : List A}

lemma samples_cons (hx : draw.run s = some (x, u)) (hys : (samples draw n).run u = some (ys, t)) :
    (samples draw (n + 1)).run s = some (x :: ys, t) := by
  rw [samples, StateT.run_bind, hx, Option.bind_eq_bind, Option.bind_some, StateT.run_bind, hys]
  rfl

lemma samples_succ_eq_some (h : (samples draw (n + 1)).run s = some (xs, t)) : ∃ x u ys,
    draw.run s = some (x, u) ∧ (samples draw n).run u = some (ys, t) ∧ xs = x :: ys := by
  rw [samples, StateT.run_bind] at h
  obtain ⟨⟨x, u⟩, hx, h⟩ := Option.bind_eq_some_iff.1 h
  rw [StateT.run_bind] at h
  obtain ⟨⟨ys, v⟩, hys, h⟩ := Option.bind_eq_some_iff.1 h
  cases h
  exact ⟨x, u, ys, hx, hys, rfl⟩

lemma samples_take (hle : n ≤ m) (h : (samples draw m).run s = some (xs, t)) :
    xs.length = m ∧ ∃ u, (samples draw n).run s = some (xs.take n, u) := by
  induction m generalizing n s xs with
  | zero =>
    cases Nat.le_zero.1 hle
    cases h
    exact ⟨rfl, _, rfl⟩
  | succ m ih =>
    obtain ⟨x, u, ys, hx, hys, rfl⟩ := samples_succ_eq_some h
    cases n with
    | zero => exact ⟨congrArg Nat.succ (ih (Nat.zero_le m) hys).1, _, rfl⟩
    | succ n =>
      obtain ⟨hlength, v, hv⟩ := ih (Nat.le_of_succ_le_succ hle) hys
      exact ⟨congrArg Nat.succ hlength, v, samples_cons hx hv⟩

end Returns

section Accepted

variable {place? : UInt64 → Option A} {x : A}

inductive Accepts (next : S → UInt64 × S) (place? : UInt64 → Option A) : S → A → S → Prop
  | now {s : S} {x : A} (h : place? (next s).1 = some x) : Accepts next place? s x (next s).2
  | later {s t : S} {x : A} (h : place? (next s).1 = none) (ht : Accepts next place? (next s).2 x t) :
    Accepts next place? s x t

def accepted (next : S → UInt64 × S) (place? : UInt64 → Option A) (s : S) (n : Nat) : List A :=
  (List.range n).filterMap fun i => place? (word next s i)

lemma accepted_succ (n : Nat) (s : S) : accepted next place? s (n + 1) =
    (place? (next s).1).toList ++ accepted next place? (next s).2 n := by
  have hword (i : Nat) : word next s (i + 1) = word next (next s).2 i := rfl
  rw [accepted, List.range_succ_eq_map, List.filterMap_cons, List.filterMap_map]
  simp only [Function.comp_def, hword, accepted]
  have hfirst : word next s 0 = (next s).1 := rfl
  rw [hfirst]
  cases place? (next s).1 <;> rfl

lemma Accepts.exists_words (h : Accepts next place? s x t) :
    ∃ n, t = skip next n s ∧ accepted next place? s n = [x] := by
  induction h with
  | @now s x h => exact ⟨1, rfl, by rw [accepted_succ, h]; rfl⟩
  | later h _ ih =>
    obtain ⟨n, ht, hx⟩ := ih
    exact ⟨n + 1, ht, by rw [accepted_succ, h, hx]; rfl⟩

lemma accepted_add (n m : Nat) (s : S) : accepted next place? s (n + m) =
    accepted next place? s n ++ accepted next place? (skip next n s) m := by
  induction n generalizing s with
  | zero => rw [Nat.zero_add]; rfl
  | succ n ih =>
    rw [Nat.succ_add, accepted_succ, accepted_succ, ih, List.append_assoc]
    rfl

variable {draw : StateT S Option A}
  (hdraw : ∀ s x t, draw.run s = some (x, t) ↔ Accepts next place? s x t)

include hdraw

lemma accepted_of_samples (h : (samples draw n).run s = some (xs, t)) :
    ∃ m, t = skip next m s ∧ accepted next place? s m = xs := by
  induction n generalizing s xs with
  | zero =>
    cases h
    exact ⟨0, rfl, rfl⟩
  | succ n ih =>
    obtain ⟨x, u, ys, hx, hys, rfl⟩ := samples_succ_eq_some h
    obtain ⟨i, rfl, hi⟩ := ((hdraw _ _ _).1 hx).exists_words
    obtain ⟨j, rfl, hj⟩ := ih hys
    exact ⟨i + j, skip_skip i j s, by rw [accepted_add, hi, hj]; rfl⟩

lemma exists_samples (m : Nat) (s : S) :
    ∃ t, (samples draw (accepted next place? s m).length).run s = some (accepted next place? s m, t) := by
  induction m generalizing s with
  | zero => exact ⟨s, rfl⟩
  | succ m ih =>
    obtain ⟨t, ht⟩ := ih (next s).2
    rw [accepted_succ]
    cases hplace : place? (next s).1 with
    | some x => exact ⟨t, samples_cons ((hdraw _ _ _).2 (.now hplace)) ht⟩
    | none =>
      rw [Option.toList_none, List.nil_append]
      cases hrest : accepted next place? (next s).2 m with
      | nil => exact ⟨s, rfl⟩
      | cons x xs =>
        rw [hrest] at ht
        obtain ⟨x, u, xs, hx, hxs, ⟨⟩⟩ := samples_succ_eq_some ht
        exact ⟨t, samples_cons ((hdraw _ _ _).2 (.later hplace ((hdraw _ _ _).1 hx))) hxs⟩

end Accepted

/-- What is taken on trust of a generator. It is a machine that yields words. A uniform sample is made of one word, a
sample of a finite range of the first one that the range accepts. -/
structure Generator.Draws (g : Generator S) (next : S → UInt64 × S) (unit : UInt64 → Float)
    (place? : Float → Float → UInt64 → Option Float) : Prop where
  unit : ∀ s, g.unit.run s = (unit (next s).1, (next s).2)
  within : ∀ low high, low < high → low.isFinite = true → high.isFinite = true → (high - low).isFinite = true →
    ∀ s x t, (g.within low high).run s = some (x, t) ↔ Accepts next (place? low high) s x t

section Recorded

variable {ws vs : List UInt64} {x : Float}

def pop : List UInt64 → UInt64 × List UInt64
  | [] => (0, [])
  | w :: ws => (w, ws)

def firstAccepted (place? : UInt64 → Option Float) : List UInt64 → Option (Float × List UInt64)
  | [] => (place? 0).map (·, [])
  | w :: ws =>
    match place? w with
    | some x => some (x, ws)
    | none => firstAccepted place? ws

lemma firstAccepted_eq_some_iff {place? : UInt64 → Option Float} :
    firstAccepted place? ws = some (x, vs) ↔ Accepts pop place? ws x vs := by
  constructor
  · intro h
    induction ws with
    | nil =>
      obtain ⟨y, hy, heq⟩ := Option.map_eq_some_iff.1 h
      cases heq
      exact .now hy
    | cons w ws ih =>
      rw [firstAccepted] at h
      cases hw : place? w with
      | some y =>
        rw [hw] at h
        cases h
        exact .now hw
      | none =>
        rw [hw] at h
        exact .later hw (ih h)
  · intro h
    induction h with
    | @now ws x hw =>
      cases ws with
      | nil => exact congrArg (Option.map (·, [])) hw
      | cons w ws =>
        rw [pop] at hw
        rw [firstAccepted, hw, pop]
    | @later ws vs x hw _ ih =>
      cases ws with
      | nil => exact ih
      | cons w ws =>
        rw [pop] at hw
        rw [firstAccepted, hw]
        exact ih

def Generator.recorded (table : UInt64 → List UInt64) (unit : UInt64 → Float)
    (place? : Float → Float → UInt64 → Option Float) : Generator (List UInt64) where
  ofSeed := table
  unit := fun ws => (unit (pop ws).1, (pop ws).2)
  within low high := firstAccepted (place? low high)

lemma Generator.recorded_draws (table : UInt64 → List UInt64) (unit : UInt64 → Float)
    (place? : Float → Float → UInt64 → Option Float) : (recorded table unit place?).Draws pop unit place? where
  unit _ := rfl
  within _ _ _ _ _ _ _ _ _ := firstAccepted_eq_some_iff

end Recorded

namespace Key

variable {g : Generator S} {unit : UInt64 → Float} {place? : Float → Float → UInt64 → Option Float}
  {k : Key} {low high : Float} {xs : List Float}

lemma uniform_eq (hg : g.Draws next unit place?) (k : Key) (n : Nat) :
    k.uniform g n = (List.range n).map fun i => unit (word next (k.generator g) i) := by
  have hsteps : Steps next g.unit 1 fun w => unit (w 0) := hg.unit
  have hsamples := hsteps.samples n (k.generator g)
  simp only [Nat.one_mul, Nat.add_zero] at hsamples
  exact congrArg Prod.fst hsamples

lemma normal_eq (hg : g.Draws next unit place?) (k : Key) (n : Nat) :
    k.normal g n = (List.range n).map fun i =>
      let u := unit (word next (k.generator g) (2 * i))
      let v := unit (word next (k.generator g) (2 * i + 1))
      Float.sqrt (-2.0 * Float.log (1.0 - u)) * Float.cos (6.28318530717958647692528676655900577 * v) := by
  have hsteps : Steps next g.deviate 2 fun w =>
      Float.sqrt (-2.0 * Float.log (1.0 - unit (w 0))) *
        Float.cos (6.28318530717958647692528676655900577 * unit (w 1)) := by
    have hunit : g.unit = fun s => (unit (next s).1, (next s).2) := funext hg.unit
    intro s
    rw [Generator.deviate, hunit]
    rfl
  exact congrArg Prod.fst (hsteps.samples n (k.generator g))

lemma uniformRange_eq_ok_iff (h : low < high) : k.uniformRange g low high n = .ok xs ↔
    ∃ t, (samples (g.within low high) n).run (k.generator g) = some (xs, t) := by
  rw [uniformRange, if_pos h]
  rcases (samples (g.within low high) n).run (k.generator g) with _ | ⟨ys, t⟩ <;> simp

/-- Samples of every kind do not depend on how many of them are asked for. A normal one is made of the two uniform ones
that stand in its place. Those of a range are the words that it accepts, and they are there if enough words are. -/
theorem samples_first (hg : g.Draws next unit place?) (k : Key) (h : n ≤ m) :
    (k.uniform g n).length = n ∧ k.uniform g n = (k.uniform g m).take n ∧
    (k.normal g n).length = n ∧ k.normal g n = (k.normal g m).take n ∧
    (∀ i < n, (k.uniform g n)[i]? = some (unit (word next (k.generator g) i))) ∧
    (∀ i < n, ∃ u v, (k.uniform g (2 * n))[2 * i]? = some u ∧ (k.uniform g (2 * n))[2 * i + 1]? = some v ∧
      (k.normal g n)[i]? = some (Float.sqrt (-2.0 * Float.log (1.0 - u)) *
        Float.cos (6.28318530717958647692528676655900577 * v))) ∧
    ∀ low high, low < high → low.isFinite = true → high.isFinite = true → (high - low).isFinite = true →
      (∀ xs, k.uniformRange g low high m = .ok xs →
        xs.length = m ∧ k.uniformRange g low high n = .ok (xs.take n)) ∧
      ∀ xs, k.uniformRange g low high n = .ok xs ↔
        xs.length = n ∧ ∃ i, accepted next (place? low high) (k.generator g) i = xs := by
  have htake {A : Type} (f : Nat → A) : (List.range n).map f = ((List.range m).map f).take n := by
    rw [← List.map_take, List.take_range, Nat.min_eq_left h]
  have hword {n i : Nat} (hi : i < n) : (k.uniform g n)[i]? = some (unit (word next (k.generator g) i)) := by
    rw [uniform_eq hg, List.getElem?_map, List.getElem?_range hi, Option.map_some]
  refine ⟨by simp [uniform_eq hg], by rw [uniform_eq hg, uniform_eq hg, ← htake], by simp [normal_eq hg],
    by rw [normal_eq hg, normal_eq hg, ← htake], fun i hi => hword hi, fun i hi => ?_,
    fun low high hends hlow hhigh hwidth => ⟨fun xs hxs => ?_, fun xs => ?_⟩⟩
  · refine ⟨_, _, hword (by omega), hword (by omega), ?_⟩
    rw [normal_eq hg, List.getElem?_map, List.getElem?_range hi, Option.map_some]
  · obtain ⟨t, ht⟩ := (uniformRange_eq_ok_iff hends).1 hxs
    obtain ⟨hlength, u, hu⟩ := samples_take h ht
    exact ⟨hlength, (uniformRange_eq_ok_iff hends).2 ⟨u, hu⟩⟩
  · have hdraw := hg.within low high hends hlow hhigh hwidth
    rw [uniformRange_eq_ok_iff hends]
    constructor
    · rintro ⟨t, ht⟩
      obtain ⟨i, _, hi⟩ := accepted_of_samples hdraw ht
      exact ⟨(samples_take (Nat.le_refl n) ht).1, i, hi⟩
    · rintro ⟨rfl, i, rfl⟩
      exact exists_samples hdraw i _

theorem samples_first_two :
    let words : List UInt64 := [6252094722932583712, 6337011287577378085, 11131144100716878902, 9813519953989330472,
      15815750653437273463, 2446922843904436664]
    let unit : UInt64 → Float := fun w => (w >>> 11).toFloat * (1.0 / 9007199254740992.0)
    let place? : Float → Float → UInt64 → Option Float := fun low high w =>
      let x := (Float.ofBits ((0x3ff0000000000000 : UInt64) ||| (w >>> 12)) - 1.0) * (high - low) + low
      if x < high then some x else none
    let k : Key := .ofSeed 9
    let g : Generator (List UInt64) := .recorded (fun seed => if seed = k.raw then words else []) unit place?
    let low : Float := 1.0
    let high : Float := 1.0000000000000004
    let middle : Float := 1.0000000000000002
    g.Draws pop unit place? ∧ k.uniform g 1 = (k.uniform g 2).take 1 ∧ k.normal g 1 = (k.normal g 2).take 1 ∧
    (k.uniform g 2)[1]? = some (unit 6337011287577378085) ∧
    (∃ u v, (k.uniform g 2)[0]? = some u ∧ (k.uniform g 2)[1]? = some v ∧
      (k.normal g 1)[0]? = some (Float.sqrt (-2.0 * Float.log (1.0 - u)) *
        Float.cos (6.28318530717958647692528676655900577 * v))) ∧
    low < high ∧ k.uniformRange g low high 5 = .ok [middle, middle, middle, middle, low] ∧
    k.uniformRange g low high 2 = .ok [middle, middle] := by
  intro words unit place? k g low high middle
  have hg : g.Draws pop unit place? := Generator.recorded_draws _ unit place?
  have hends : low < high := by decide +kernel
  have hlow : low.isFinite = true := by decide +kernel
  have hhigh : high.isFinite = true := by decide +kernel
  have hwidth : (high - low).isFinite = true := by decide +kernel
  have hwords : accepted pop (place? low high) (k.generator g) 6 = [middle, middle, middle, middle, low] := by
    decide +kernel
  obtain ⟨_, _, _, _, _, _, hrange⟩ := samples_first hg k (Nat.le_refl 5)
  have hfive := ((hrange low high hends hlow hhigh hwidth).2 _).2 ⟨rfl, 6, hwords⟩
  obtain ⟨_, _, _, _, _, _, hrange⟩ := samples_first hg k (show 2 ≤ 5 by decide)
  have htwo := ((hrange low high hends hlow hhigh hwidth).1 _ hfive).2
  obtain ⟨_, huniform, _, hnormal, _, hpairs, _⟩ := samples_first hg k (show 1 ≤ 2 by decide)
  obtain ⟨_, _, _, _, hsecond, _⟩ := samples_first hg k (Nat.le_refl 2)
  exact ⟨hg, huniform, hnormal, hsecond 1 (by decide), hpairs 0 (by decide), hends, hfive, htwo⟩

end Key

end ColumnSim.Random
