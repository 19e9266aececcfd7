import ColumnSim.Proofs.Reachable

namespace ColumnSim

variable {R : Type} {V : AssetKind → Type} {e : EntityId} {c : ComponentId}

namespace Event

def written? (e : EntityId) (c : ComponentId) : Event R V → Option (Buffer R)
  | .written schema entries => if c = schema.id then (lastOf? entries e).map .ofValue else none
  | _ => none

def received? (e : EntityId) (c : ComponentId) : Event R V → Option (Buffer R)
  | .spawned f b => if e = f then ComponentValue.cellOf? b.values c else none
  | .attached f b => if e = f then ComponentValue.cellOf? b.values c else none
  | _ => none

def latest? (events : List (Event R V)) (e : EntityId) (c : ComponentId) : Option (Buffer R) :=
  (events.reverse.findSome? (written? e c)).or (events.findSome? (received? e c))

end Event

namespace Store

variable {s u : Store R V}

lemma Step.cell? {event : Event R V} (h : Step s event u) (hs : s.Valid) :
    u.cell? e c = (event.written? e c).or ((s.cell? e c).or (event.received? e c)) := by
  cases h with
  | spawned h => simpa [Event.written?, Event.received?] using hs.cell?_spawn h
  | named => exact Option.or_none.symm
  | attached h => simpa [Event.written?, Event.received?] using hs.cell?_attach h
  | written h =>
    rw [hs.cell?_write h]
    simp only [Event.written?, Event.received?, Option.or_none]
    split <;> simp
  | added => exact Option.or_none.symm
  | frozen => exact Option.or_none.symm

lemma Run.cell? {events : List (Event R V)} (h : Run s events u) (hs : s.Valid) :
    u.cell? e c = (events.reverse.findSome? (Event.written? e c)).or
      ((s.cell? e c).or (events.findSome? (Event.received? e c))) := by
  induction h with
  | nil => simp
  | @cons s u w event events h _ ih =>
    have hreverse : (event :: events).reverse.findSome? (Event.written? e c) =
        (events.reverse.findSome? (Event.written? e c)).or (event.written? e c) := by
      rw [List.reverse_cons, List.findSome?_append]
      simp
    have hfront : (event :: events).findSome? (Event.received? e c) =
        (event.received? e c).or (events.findSome? (Event.received? e c)) := by
      rw [List.findSome?_cons]
      cases event.received? e c <;> rfl
    rw [ih (h.valid hs), h.cell? hs, hreverse, hfront]
    simp only [Option.or_assoc]

theorem get_applyAll (changes : List (Change R V)) {schema : Schema}
    (ha : ((empty : Store R V).applyAll changes).Agrees schema) (e : EntityId) :
    ∃ v : Option (schema.Value R), ((empty : Store R V).applyAll changes).get schema e = .ok v ∧
      v.map .ofValue = Event.latest? ((empty : Store R V).log changes) e schema.id := by
  have hrun := applyAll_run (empty : Store R V) changes
  have hnew : (empty : Store R V).cell? e schema.id = none := rfl
  refine ⟨_, get_eq_ok ha e, ?_⟩
  rw [← (hrun.valid empty_valid).cell?_eq_value? ha, hrun.cell? empty_valid, hnew, Option.none_or, Event.latest?]

theorem get_applyAll_mass :
    ∃ changes : List (Change Nat Tokens), ((empty : Store Nat Tokens).applyAll changes).Agrees (.scalar "mass" .f64) ∧
      ((empty : Store Nat Tokens).applyAll changes).get (.scalar "mass" .f64) ⟨0⟩ = .ok (some #v[9]) ∧
      Event.latest? ((empty : Store Nat Tokens).log changes) ⟨0⟩ (.ofName "mass") = some ⟨.f64, #[9]⟩ := by
  let mass : Schema := .scalar "mass" .f64
  let rock : Bundle Nat := (Bundle.empty "rock").add mass #v[5]
  let changes : List (Change Nat Tokens) :=
    [.spawn rock, .spawn rock, .write mass [⟨0⟩, ⟨1⟩, ⟨0⟩] [#v[7], #v[8], #v[9]], .write mass [⟨2⟩] [#v[1]]]
  have ha : ((empty : Store Nat Tokens).applyAll changes).Agrees mass := checkSchema_eq_ok_iff.1 (by decide +kernel)
  have hnine : ((empty : Store Nat Tokens).applyAll changes).get mass ⟨0⟩ = .ok (some #v[9]) := by decide +kernel
  obtain ⟨v, hget, hv⟩ := get_applyAll changes ha ⟨0⟩
  rw [hnine] at hget
  cases hget
  exact ⟨changes, ha, hnine, hv.symm⟩

end Store

end ColumnSim
