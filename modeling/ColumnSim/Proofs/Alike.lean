import ColumnSim.Proofs.Holdings
import ColumnSim.Proofs.Map
import ColumnSim.Proofs.Match

/-! Stores that look alike. Queries, writes and maps cannot tell how components are split over archetypes. -/

namespace ColumnSim

inductive Task (R : Type)
  | write (schema : Schema) (entities : List EntityId) (values : List (schema.Value R))
  | map (c : Client) (m : MapSystem R)

variable {R : Type} {V : AssetKind → Type} {s u v w : Store R V} {schema : Schema}

namespace Task

def run : Task R → Store R V → Outcome (Store R V) Unit
  | write schema es vs, s => .ofStep s (s.write schema es vs)
  | map c m, s => System.run c (.map m) s

def runAll : List (Task R) → Store R V → List (Except Error Unit) × Store R V
  | [], s => ([], s)
  | task :: tasks, s =>
    let (result, s) := task.run s
    let (results, s) := runAll tasks s
    (result :: results, s)

end Task

section Endings

variable {A B C D : Type} {x : Except Error A} {y : Except Error B}

def ending (x : Except Error A) : Except Error Unit := x.map fun _ => ()

lemma ending_bind {f : A → Except Error C} {g : B → Except Error D} (h : ending x = ending y)
    (hfg : ∀ a b, ending (f a) = ending (g b)) : ending (x >>= f) = ending (y >>= g) := by
  cases x with
  | error a =>
    cases y with
    | error b => exact h
    | ok b => cases h
  | ok a =>
    cases y with
    | error b => cases h
    | ok b => exact hfg a b

lemma ending_mapM {f : EntityId → Except Error A} {g : EntityId → Except Error B}
    (h : ∀ e, ending (f e) = ending (g e)) (es : List EntityId) : ending (es.mapM f) = ending (es.mapM g) := by
  induction es with
  | nil => rfl
  | cons e es ih =>
    rw [List.mapM_cons, List.mapM_cons]
    exact ending_bind (h e) fun _ _ => ending_bind ih fun _ _ => rfl

lemma Outcome.ofStep_simulates {x y : Except Error (Store R V)} {P : Store R V → Store R V → Prop}
    (hend : ending x = ending y) (hok : ∀ v w, x = .ok v → y = .ok w → P v w) (herror : P s u) :
    (ofStep s x).1 = (ofStep u y).1 ∧ P (ofStep s x).2 (ofStep u y).2 := by
  cases x with
  | error a =>
    cases y with
    | error b =>
      cases hend
      exact ⟨rfl, herror⟩
    | ok w => cases hend
  | ok v =>
    cases y with
    | error b => cases hend
    | ok w => exact ⟨rfl, hok v w rfl rfl⟩

end Endings

namespace Store

lemma ending_write_congr {es : List EntityId} {vs : List (schema.Value R)}
    (hcheck : s.checkSchema schema = u.checkSchema schema)
    (htarget : ∀ e, ending (s.target schema e) = ending (u.target schema e)) :
    ending (s.write schema es vs) = ending (u.write schema es vs) := by
  rw [write, write, hcheck]
  split
  · rfl
  · exact ending_bind rfl fun _ _ => ending_bind (ending_mapM htarget es) fun _ _ => rfl

/-- In both stores the same entities hold the same components, with the same layouts and values. -/
structure Alike (s u : Store R V) : Prop where
  entities : s.entities = u.entities
  holdings : ∀ entry, entry ∈ s.holdings ↔ entry ∈ u.holdings
  values : ∀ entry ∈ s.holdings, s.get entry.2 entry.1 = u.get entry.2 entry.1

def DistinctNames (s : Store R V) : Prop :=
  ∀ a ∈ s.holdings, ∀ b ∈ s.holdings, a.2.id = b.2.id → a.2.name = b.2.name

structure Twins (s u : Store R V) : Prop where
  alike : s.Alike u
  left : s.Valid
  right : u.Valid
  schema? : ∀ c, s.schema? c = u.schema? c

namespace Alike

lemma symm (h : s.Alike u) : u.Alike s where
  entities := h.entities.symm
  holdings entry := (h.holdings entry).symm
  values entry hm := (h.values entry ((h.holdings entry).2 hm)).symm

lemma distinctNames (h : s.Alike u) (hn : s.DistinctNames) : u.DistinctNames :=
  fun a ha b hb => hn a ((h.holdings a).2 ha) b ((h.holdings b).2 hb)

lemma registered (h : s.Alike u) (hs : s.Valid) (hu : u.Valid) (has : s.Attested) (hau : u.Attested)
    (hn : u.DistinctNames) {c : ComponentId} {a : Schema} (ha : s.schema? c = some a) : u.schema? c = some a := by
  obtain ⟨e, he⟩ := has c a ha
  have heu := (h.holdings _).1 he
  obtain ⟨b, hb, hl⟩ := hu.registersAs_of_mem_holdings heu
  -- The name that was registered first is held too, so that it is no other one of the same id.
  obtain ⟨f, hf⟩ := hau _ b hb
  have hname : b.name = a.name := hn _ hf _ heu (hu.schema_id hb)
  have heq : b = a := by
    cases a
    cases b
    exact congrArg₂ Schema.mk hname hl
  rwa [hs.schema_id ha, heq] at hb

lemma schema? (h : s.Alike u) (hs : s.Valid) (hu : u.Valid) (has : s.Attested) (hau : u.Attested)
    (hn : s.DistinctNames) (c : ComponentId) : s.schema? c = u.schema? c := by
  apply Option.ext
  intro a
  constructor
  · exact h.registered hs hu has hau (h.distinctNames hn)
  · exact h.symm.registered hu hs hau has hn

end Alike

namespace Twins

variable (h : Twins s u)

include h

lemma holds_iff (e : EntityId) (c : ComponentId) : s.Holds e c ↔ u.Holds e c := by
  simp only [holds_iff_mem_holdings, h.alike.holdings]

lemma agrees_iff (schema : Schema) : s.Agrees schema ↔ u.Agrees schema := by
  rw [Agrees, Agrees, h.schema?]

lemma cell? (e : EntityId) (c : ComponentId) : s.cell? e c = u.cell? e c := by
  by_cases hc : s.Holds e c
  · obtain ⟨schema, hm, rfl⟩ := holds_iff_mem_holdings.1 hc
    have hs := (h.left.registersAs_of_mem_holdings hm).agrees
    have hu := (h.agrees_iff schema).1 hs
    have hget := h.alike.values _ hm
    rw [get_eq_ok hs, get_eq_ok hu] at hget
    rw [h.left.cell?_eq_value? hs, h.right.cell?_eq_value? hu, Except.ok.inj hget]
  · have hcu : ¬u.Holds e c := fun hu => hc ((h.holds_iff e c).2 hu)
    rw [← h.left.cell?_isSome_iff, Option.not_isSome_iff_eq_none] at hc
    rw [← h.right.cell?_isSome_iff, Option.not_isSome_iff_eq_none] at hcu
    rw [hc, hcu]

lemma query_eq (inputs : List Schema) : s.query inputs = u.query inputs :=
  h.left.query_congr h.right h.schema? fun schema _ e => h.cell? e schema.id

section Write

variable {es : List EntityId} {vs : List (schema.Value R)}

lemma ending_target (e : EntityId) : ending (s.target schema e) = ending (u.target schema e) := by
  have hl : (s.locate? e schema.id).isSome = (u.locate? e schema.id).isSome := by
    rw [← h.left.cell?_isSome, ← h.right.cell?_isSome, h.cell?]
  have hending : ∀ s : Store R V, ending (s.target schema e) =
      if s.entities.contains e then
        if (s.locate? e schema.id).isSome then .ok () else .error (.missingOutput e schema.name)
      else .error (.neverSpawned e) := by
    intro s
    rw [target]
    cases s.entities.contains e with
    | false => rfl
    | true => cases s.locate? e schema.id <;> rfl
  rw [hending, hending, h.alike.entities, hl]

lemma ending_write : ending (s.write schema es vs) = ending (u.write schema es vs) :=
  ending_write_congr (checkSchema_congr (h.schema? _)) h.ending_target

lemma write (hv : s.write schema es vs = .ok v) (hw : u.write schema es vs = .ok w) : Twins v w := by
  have hov := outline_write hv
  have how := outline_write hw
  have hcell : ∀ e c, v.cell? e c = w.cell? e c := fun e c => by
    rw [h.left.cell?_write hv, h.right.cell?_write hw, h.cell?]
  have hschema : ∀ c, v.schema? c = w.schema? c := fun c => by
    rw [schema?_of_outline hov, schema?_of_outline how, h.schema?]
  refine ⟨⟨?_, fun entry => ?_, fun entry _ => ?_⟩, h.left.write hv, h.right.write hw, hschema⟩
  · obtain ⟨_, rfl⟩ := eq_of_outline hov
    obtain ⟨_, rfl⟩ := eq_of_outline how
    exact h.alike.entities
  · rw [holdings_of_outline hov, holdings_of_outline how, h.alike.holdings]
  · rw [get, get, checkSchema_congr (hschema _), value?_eq_cell?, value?_eq_cell?, hcell]

end Write

lemma ofStep_write (es : List EntityId) (vs : List (schema.Value R)) :
    (Outcome.ofStep s (s.write schema es vs)).1 = (Outcome.ofStep u (u.write schema es vs)).1 ∧
      Twins (Outcome.ofStep s (s.write schema es vs)).2 (Outcome.ofStep u (u.write schema es vs)).2 :=
  Outcome.ofStep_simulates h.ending_write (fun _ _ hv hw => h.write hv hw) h

lemma system_map (c : Client) (m : MapSystem R) : (System.run c (.map m) s).1 = (System.run c (.map m) u).1 ∧
    Twins (System.run c (.map m) s).2 (System.run c (.map m) u).2 := by
  have heval : m.evaluate c s = m.evaluate c u := by rw [MapSystem.evaluate, MapSystem.evaluate, h.query_eq]
  rw [System.run, System.run, MapSystem.apply, MapSystem.apply, heval]
  cases m.evaluate c u with
  | error e => exact ⟨rfl, h⟩
  | ok results =>
    change (Outcome.ofStep s (results.apply s)).1 = (Outcome.ofStep u (results.apply u)).1 ∧
      Twins (Outcome.ofStep s (results.apply s)).2 (Outcome.ofStep u (results.apply u)).2
    rw [ColumnWrite.apply, ColumnWrite.apply]
    split
    · exact ⟨rfl, h⟩
    · exact h.ofStep_write _ _

lemma runAll (tasks : List (Task R)) : (Task.runAll tasks s).1 = (Task.runAll tasks u).1 ∧
    Twins (Task.runAll tasks s).2 (Task.runAll tasks u).2 := by
  induction tasks generalizing s u with
  | nil => exact ⟨rfl, h⟩
  | cons task tasks ih =>
    have hstep : (task.run s).1 = (task.run u).1 ∧ Twins (task.run s).2 (task.run u).2 := by
      cases task with
      | write schema es vs => exact h.ofStep_write es vs
      | map c m => exact h.system_map c m
    obtain ⟨hresult, hnext⟩ := hstep
    obtain ⟨hresults, hlast⟩ := ih hnext
    exact ⟨congrArg₂ List.cons hresult hresults, hlast⟩

end Twins

theorem Alike.runAll_eq (h : s.Alike u) (hs : s.Reachable) (hu : u.Reachable) (hn : s.DistinctNames)
    (tasks : List (Task R)) :
    (Task.runAll tasks s).1 = (Task.runAll tasks u).1 ∧
      (Task.runAll tasks s).2.Alike (Task.runAll tasks u).2 ∧
      ∀ inputs, (Task.runAll tasks s).2.query inputs = (Task.runAll tasks u).2.query inputs := by
  have hschema := h.schema? hs.valid hu.valid hs.attested hu.attested hn
  obtain ⟨hresults, hlast⟩ := Twins.runAll ⟨h, hs.valid, hu.valid, hschema⟩ tasks
  exact ⟨hresults, hlast.alike, hlast.query_eq⟩

theorem Alike.runAll_eq_split : ∃ (s u : Store Nat Tokens) (tasks : List (Task Nat)), s.Reachable ∧ u.Reachable ∧
    s.tables.size = 1 ∧ u.tables.size = 2 ∧ s.DistinctNames ∧ s.Alike u ∧
    (Task.runAll tasks u).1 = [.ok (), .error (.missingOutput ⟨0⟩ "cold"), .ok ()] ∧
    (Task.runAll tasks u).1 = (Task.runAll tasks s).1 := by
  let mass : Schema := .scalar "mass" .f64
  let heat : Schema := .scalar "heat" .f64
  let ember : Bundle Nat := ((Bundle.empty "ember").add mass #v[5]).add heat #v[8]
  let fire : Bundle Nat := (Bundle.empty "fire").add heat #v[8]
  let rock : Bundle Nat := (Bundle.empty "rock").add mass #v[5]
  let one : List (Change Nat Tokens) := [.spawn ember]
  let two : List (Change Nat Tokens) := [.spawn fire, .attach ⟨0⟩ rock]
  let tasks : List (Task Nat) := [.map .default ⟨"melt", [heat, mass], mass, fun (v, _) => v⟩,
    .write (.scalar "cold" .f64) [⟨0⟩] [#v[1]], .write heat [⟨0⟩] [#v[9]]]
  have hone : Reachable (empty.applyAll one) := ⟨one, rfl⟩
  have htwo : Reachable (empty.applyAll two) := ⟨two, rfl⟩
  have hnames : DistinctNames (empty.applyAll one) := by
    rw [DistinctNames]
    decide +kernel
  have halike : Alike (empty.applyAll one) (empty.applyAll two) := by
    have hs : (empty.applyAll one).holdings = [(⟨0⟩, mass), (⟨0⟩, heat)] := by decide +kernel
    have hu : (empty.applyAll two).holdings = [(⟨0⟩, heat), (⟨0⟩, mass)] := by decide +kernel
    refine ⟨by decide +kernel, fun entry => ?_, ?_⟩
    · rw [hs, hu, List.mem_pair, List.mem_pair, or_comm]
    · have hm : (empty.applyAll one).get mass ⟨0⟩ = (empty.applyAll two).get mass ⟨0⟩ := by decide +kernel
      have hh : (empty.applyAll one).get heat ⟨0⟩ = (empty.applyAll two).get heat ⟨0⟩ := by decide +kernel
      rw [hs, List.forall_mem_cons, List.forall_mem_singleton]
      exact ⟨hm, hh⟩
  have hresults : (Task.runAll tasks (empty.applyAll two)).1 =
      [.ok (), .error (.missingOutput ⟨0⟩ "cold"), .ok ()] := by
    decide +kernel
  exact ⟨_, _, tasks, hone, htwo, by decide +kernel, by decide +kernel, hnames, halike, hresults,
    (halike.runAll_eq hone htwo hnames tasks).1.symm⟩

end Store

end ColumnSim
