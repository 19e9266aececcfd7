import ColumnSim.Proofs.Links
import ColumnSim.Proofs.Results
import ColumnSim.System.Basic

namespace ColumnSim

variable {R : Type} {V : AssetKind → Type} {s u : Store R V} {e : EntityId} {c : Client} {f : FoldSystem R}
  {links : List (EntityId × EntityId)}

namespace FoldSystem

/-- The rows of the targets that an entity reaches, link by link. Targets that do not match are passed over. -/
def reached (f : FoldSystem R) (s : Store R V) (links : List (EntityId × EntityId)) (e : EntityId) :
    List (Row R f.right) :=
  links.filterMap fun (source, target) => if source = e then s.matched? f.right target else none

def Active (f : FoldSystem R) (s : Store R V) (links : List (EntityId × EntityId)) (e : EntityId) : Prop :=
  (∃ row, s.matched? f.left e = some row) ∧ ∃ target row, (e, target) ∈ links ∧ s.matched? f.right target = some row

def total (f : FoldSystem R) (row : Row R f.left) (targets : List (Row R f.right)) : f.output.Value R :=
  targets.foldl (fun acc target => f.step acc row target) f.start

def entries (f : FoldSystem R) (s : Store R V) (links : List (EntityId × EntityId)) :
    List (EntityId × f.output.Value R) :=
  (Graph.mk links).sources.filterMap fun e =>
    ((Graph.mk links).work? ⟨s.join f.left⟩ ⟨s.join f.right⟩ e).map fun work => (e, f.total work.1 work.2)

lemma reached_ne_nil_iff :
    f.reached s links e ≠ [] ↔ ∃ target row, (e, target) ∈ links ∧ s.matched? f.right target = some row := by
  rw [← List.length_pos_iff, List.length_pos_iff_exists_mem]
  simp only [reached, List.mem_filterMap, Prod.exists, Option.ite_none_right_eq_some]
  constructor
  · rintro ⟨row, _, target, hm, rfl, hrow⟩
    exact ⟨target, row, hm, hrow⟩
  · rintro ⟨target, row, hm, hrow⟩
    exact ⟨row, e, target, hm, rfl, hrow⟩

lemma fold_eq_ofEntries : (Graph.mk links).fold c ⟨s.join f.left⟩ ⟨s.join f.right⟩ f.start f.step =
    .ofEntries (f.entries s links) := by
  simp only [Graph.fold, Client.mapRows_eq_map, ColumnWrite.ofEntries, entries, List.map_filterMap, Option.map_map]
  rfl

lemma entries_ascending : (f.entries s links).Pairwise (·.1.raw < ·.1.raw) := by
  rw [entries, List.pairwise_filterMap]
  refine (Graph.sources_ascending _).imp fun {e g} hlt => ?_
  intro entry hentry other hother
  obtain ⟨_, _, rfl⟩ := Option.map_eq_some_iff.1 hentry
  obtain ⟨_, _, rfl⟩ := Option.map_eq_some_iff.1 hother
  exact hlt

end FoldSystem

lemma Graph.work?_eq_some_iff {left right : List Schema} {g : Graph} {l : Query R left} {r : Query R right}
    {row : Row R left} {targets : List (Row R right)} : g.work? l r e = some (row, targets) ↔
      l.row? e = some row ∧ (g.targets e).filterMap r.row? = targets ∧ targets ≠ [] := by
  rw [work?]
  cases l.row? e with
  | none => simp
  | some found =>
    cases (g.targets e).filterMap r.row? with
    | nil =>
      simp only [reduceCtorEq, false_iff]
      rintro ⟨_, rfl, hne⟩
      exact hne rfl
    | cons t ts =>
      simp only [Option.some.injEq, Prod.mk.injEq]
      constructor
      · rintro ⟨rfl, rfl⟩
        exact ⟨rfl, rfl, List.cons_ne_nil _ _⟩
      · rintro ⟨hrow, hts, _⟩
        exact ⟨hrow, hts⟩

namespace Store.Valid

variable (hs : s.Valid) (hleft : ∀ schema ∈ f.left, s.Agrees schema) (hright : ∀ schema ∈ f.right, s.Agrees schema)

include hs hleft hright

omit hleft in
lemma filterMap_targets (e : EntityId) :
    ((Graph.mk links).targets e).filterMap (Query.mk (s.join f.right)).row? = f.reached s links e := by
  rw [Graph.targets, List.filterMap_filterMap, FoldSystem.reached]
  refine List.filterMap_congr fun link _ => ?_
  obtain ⟨source, target⟩ := link
  dsimp only
  split
  · rw [Option.bind_some, hs.row?_join hright]
  · rfl

lemma mem_fold_entries_iff {v : f.output.Value R} : (e, v) ∈ f.entries s links ↔
    ∃ row, s.matched? f.left e = some row ∧ f.reached s links e ≠ [] ∧ f.total row (f.reached s links e) = v := by
  simp only [FoldSystem.entries, List.mem_filterMap, Option.map_eq_some_iff, Prod.exists, Prod.mk.injEq,
    Graph.work?_eq_some_iff, hs.row?_join hleft, hs.filterMap_targets hright, Graph.mem_sources_iff]
  constructor
  · rintro ⟨_, _, row, _, ⟨hrow, rfl, hne⟩, rfl, hv⟩
    exact ⟨row, hrow, hne, hv⟩
  · rintro ⟨row, hrow, hne, hv⟩
    obtain ⟨target, _, hm, _⟩ := FoldSystem.reached_ne_nil_iff.1 hne
    exact ⟨e, ⟨target, hm⟩, row, _, ⟨hrow, rfl, hne⟩, rfl, hv⟩

end Store.Valid

lemma FoldSystem.apply_eq {es : List EntityId} (hs : s.Valid) (hrel : s.Agrees f.relation.schema)
    (hleft : ∀ schema ∈ f.left, s.Agrees schema) (hright : ∀ schema ∈ f.right, s.Agrees schema)
    (hes : s.Arrived f.relation.schema.id es) :
    f.apply c s = (ColumnWrite.ofEntries (f.entries s (f.relation.links s es))).apply s := by
  rw [apply, evaluate, hes.graph_eq hs hrel, Store.query_eq_ok hleft, Store.query_eq_ok hright, ← fold_eq_ofEntries]
  rfl

theorem Store.run_fold (changes : List (Change R V)) (hs : s = empty.applyAll changes) (c : Client) (f : FoldSystem R)
    (hlinks : links = f.relation.links s (Event.recipients (empty.log changes) f.relation.schema.id))
    (hrel : s.Agrees f.relation.schema) (hleft : ∀ schema ∈ f.left, s.Agrees schema)
    (hright : ∀ schema ∈ f.right, s.Agrees schema) (hout : s.Agrees f.output) :
    ((∀ e, f.Active s links e → s.Holds e f.output.id) →
      ∃ u, System.run c (.fold f) s = (.ok (), u) ∧
        (∀ e row, f.Active s links e → s.matched? f.left e = some row →
          u.get f.output e =
            .ok (some ((f.reached s links e).foldl (fun acc target => f.step acc row target) f.start))) ∧
        (∀ e schema, (f.Active s links e → schema.id ≠ f.output.id) → u.get schema e = s.get schema e) ∧
        u.outline = s.outline) ∧
    ∀ e, f.Active s links e → ¬s.Holds e f.output.id →
      (∀ g, f.Active s links g → ¬s.Holds g f.output.id → e.raw ≤ g.raw) →
      System.run c (.fold f) s = (.error (.missingOutput e f.output.name), s) := by
  have hrunAll := applyAll_run (empty : Store R V) changes
  rw [← hs] at hrunAll
  have hv := hrunAll.valid empty_valid
  have harrived := hrunAll.arrived empty_valid (arrived_empty (c := f.relation.schema.id))
  have happly : f.apply c s = (ColumnWrite.ofEntries (f.entries s links)).apply s := by
    rw [FoldSystem.apply_eq hv hrel hleft hright harrived, hlinks]
    rfl
  have hrun : System.run c (.fold f) s = .ofStep s (f.apply c s) := rfl
  have hmem : ∀ {e v}, (e, v) ∈ f.entries s links ↔ _ := hv.mem_fold_entries_iff hleft hright
  have hactive : ∀ {e v}, (e, v) ∈ f.entries s links → f.Active s links e := fun he => by
    obtain ⟨row, hrow, hne, _⟩ := hmem.1 he
    exact ⟨⟨row, hrow⟩, FoldSystem.reached_ne_nil_iff.1 hne⟩
  have hasc : (f.entries s links).Pairwise (·.1.raw < ·.1.raw) := FoldSystem.entries_ascending
  rw [hrun, happly, ColumnWrite.apply_eq_write ColumnWrite.length_ofEntries hout]
  constructor
  · intro hall
    obtain ⟨u, hu⟩ := hv.exists_write_entries hout fun entry hm => hall entry.1 (hactive hm)
    obtain ⟨hset, hframe⟩ := hv.write_entries hasc hu
    refine ⟨u, by rw [hu]; rfl, fun e row he hrow => ?_, fun e schema hother => ?_, outline_write hu⟩
    · exact hset e _ (hmem.2 ⟨row, hrow, FoldSystem.reached_ne_nil_iff.2 he.2, rfl⟩)
    · exact hframe e schema fun v hm => hother (hactive hm)
  · intro e he hn hmin
    obtain ⟨row, hrow⟩ := he.1
    have hentry := hmem.2 ⟨row, hrow, FoldSystem.reached_ne_nil_iff.2 he.2, rfl⟩
    have hspawned := hv.spawned_of_matched? hleft hrow
    rw [hv.write_entries_missing hasc hout hentry hspawned hn fun g v hm => hmin g (hactive hm)]
    rfl

theorem Store.run_fold_digits : ∃ (s : Store Nat Tokens) (digits warm : FoldSystem Nat), s.Reachable ∧
    (∃ u, System.run .default (.fold digits) s = (.ok (), u) ∧
      u.get (.scalar "digit" .f64) ⟨0⟩ = .ok (some #v[76]) ∧ u.get (.scalar "digit" .f64) ⟨1⟩ = .ok (some #v[6]) ∧
      u.get (.scalar "digit" .f64) ⟨2⟩ = .ok (some #v[7]) ∧ u.outline = s.outline) ∧
    System.run .default (.fold warm) s = (.error (.missingOutput ⟨0⟩ "heat"), s) := by
  let digit : Schema := .scalar "digit" .f64
  let node (n : Nat) : Bundle Nat := (Bundle.empty "node").add digit #v[n]
  let edge (a b : Nat) : Bundle Nat := (Bundle.empty "edge").add Relation.edgeSchema (Relation.edgeValue ⟨a⟩ ⟨b⟩)
  let changes : List (Change Nat Tokens) := [.spawn (node 5), .spawn (node 6), .spawn (node 7), .spawn (edge 0 2),
    .spawn (edge 1 1), .spawn (edge 0 99), .spawn (edge 0 1), .spawn (edge 0 3), .spawn (edge 3 0)]
  let digits : FoldSystem Nat := ⟨"digits", .edge, [digit], [digit], digit, #v[0],
    fun acc _ target => Schema.pack (10 * Schema.unpack acc + Schema.unpack target.1)⟩
  let warm : FoldSystem Nat := { digits with output := .scalar "heat" .f64 }
  have hdigit : (empty.applyAll changes).Agrees digit := checkSchema_eq_ok_iff.1 (by decide +kernel)
  have hheat : (empty.applyAll changes).Agrees (.scalar "heat" .f64) := checkSchema_eq_ok_iff.1 (by decide +kernel)
  have hedge : (empty.applyAll changes).Agrees Relation.edgeSchema := checkSchema_eq_ok_iff.1 (by decide +kernel)
  have hinputs : ∀ schema ∈ [digit], (empty.applyAll changes).Agrees schema := List.forall_mem_singleton.2 hdigit
  let links := digits.relation.links (empty.applyAll changes)
    (Event.recipients (empty.log changes) digits.relation.schema.id)
  have hfive : (empty.applyAll changes).get digit ⟨0⟩ = .ok (some #v[5]) := by decide +kernel
  have hsix : (empty.applyAll changes).get digit ⟨1⟩ = .ok (some #v[6]) := by decide +kernel
  have hseven : (empty.applyAll changes).get digit ⟨2⟩ = .ok (some #v[7]) := by decide +kernel
  have hzero : (empty.applyAll changes).matched? [digit] ⟨0⟩ = some (#v[5], ()) :=
    (matched?_eq_some_iff hinputs).2 ⟨List.cons_ne_nil _ _, hfive, trivial⟩
  have hone : (empty.applyAll changes).matched? [digit] ⟨1⟩ = some (#v[6], ()) :=
    (matched?_eq_some_iff hinputs).2 ⟨List.cons_ne_nil _ _, hsix, trivial⟩
  have hfold0 : (.ok (some (digits.total (#v[5], ()) (digits.reached (empty.applyAll changes) links ⟨0⟩))) :
      Except Error (Option (digit.Value Nat))) = .ok (some #v[76]) := by decide +kernel
  have hfold1 : (.ok (some (digits.total (#v[6], ()) (digits.reached (empty.applyAll changes) links ⟨1⟩))) :
      Except Error (Option (digit.Value Nat))) = .ok (some #v[6]) := by decide +kernel
  have hactive0 : digits.Active (empty.applyAll changes) links ⟨0⟩ := ⟨⟨_, hzero⟩, ⟨1⟩, _, by decide +kernel, hone⟩
  have hactive1 : digits.Active (empty.applyAll changes) links ⟨1⟩ := ⟨⟨_, hone⟩, ⟨1⟩, _, by decide +kernel, hone⟩
  have hinactive2 : ¬digits.Active (empty.applyAll changes) links ⟨2⟩ := by
    rintro ⟨_, target, _, hm, _⟩
    exact (by decide +kernel : ∀ link ∈ links, link.1 ≠ ⟨2⟩) _ hm rfl
  have hcold : (empty.applyAll changes).locate? ⟨0⟩ warm.output.id = none := by decide +kernel
  obtain ⟨hrun, _⟩ := run_fold changes rfl .default digits rfl hedge hinputs hinputs hdigit
  obtain ⟨_, hmissing⟩ := run_fold changes rfl .default warm rfl hedge hinputs hinputs hheat
  have hs : Reachable (empty.applyAll changes) := ⟨changes, rfl⟩
  obtain ⟨u, hu, hset, hframe, hout⟩ := hrun fun e ⟨⟨row, hrow⟩, _⟩ =>
    (hs.valid.exists_reads_iff hinputs).1 ⟨row, ((matched?_eq_some_iff hinputs).1 hrow).2⟩ digit
      (List.mem_singleton.2 rfl)
  refine ⟨_, digits, warm, hs, ⟨u, hu, ?_, ?_, ?_, hout⟩, ?_⟩
  · exact (hset ⟨0⟩ _ hactive0 hzero).trans hfold0
  · exact (hset ⟨1⟩ _ hactive1 hone).trans hfold1
  · exact (hframe ⟨2⟩ digit fun h => (hinactive2 h).elim).trans hseven
  · refine hmissing ⟨0⟩ hactive0 (fun hh => ?_) fun g _ _ => Nat.zero_le _
    obtain ⟨p, hp⟩ := hs.valid.holds_iff.1 hh
    rw [hcold] at hp
    cases hp

end ColumnSim
