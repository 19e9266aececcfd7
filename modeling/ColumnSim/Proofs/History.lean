import ColumnSim.Proofs.Write
import ColumnSim.Store.Change

/-! The history of a store: the events that changes consist of, without those that failed. -/

namespace ColumnSim

inductive Event (R : Type) (V : AssetKind → Type)
  | spawned (e : EntityId) (b : Bundle R)
  | named (e : EntityId) (name : String)
  | attached (e : EntityId) (b : Bundle R)
  | written (schema : Schema) (entries : List (EntityId × schema.Value R))
  | added (kind : AssetKind) (content : V kind)
  | frozen

namespace Store

variable {R : Type} {V : AssetKind → Type}

inductive Step : Store R V → Event R V → Store R V → Prop
  | spawned {s u : Store R V} {e b} (h : s.spawn b = .ok (e, u)) : Step s (.spawned e b) u
  | named {s : Store R V} {e name} : Step s (.named e name) { s with names := s.names.insert e name }
  | attached {s u : Store R V} {e b} (h : s.attach e b = .ok u) : Step s (.attached e b) u
  | written {s u : Store R V} {schema es vs} (h : s.write schema es vs = .ok u) :
    Step s (.written schema (es.zip vs)) u
  | added {s : Store R V} {kind content} : Step s (.added kind content) (s.insertAsset kind content).2
  | frozen {s : Store R V} : Step s .frozen s.freeze

inductive Run : Store R V → List (Event R V) → Store R V → Prop
  | nil {s : Store R V} : Run s [] s
  | cons {s u w : Store R V} {event events} (h : Step s event u) (hr : Run u events w) : Run s (event :: events) w

variable {s u w : Store R V}

lemma Run.append {front back : List (Event R V)} (hf : Run s front u) (hb : Run u back w) :
    Run s (front ++ back) w := by
  induction hf with
  | nil => exact hb
  | cons h _ ih => exact .cons h (ih hb)

lemma Step.run {event : Event R V} (h : Step s event u) : Run s [event] u := .cons h .nil

def batchEvents (s : Store R V) : List (Bundle R) → List (Event R V)
  | [] => []
  | b :: bs =>
    match s.spawn b with
    | .error _ => []
    | .ok (e, u) => .spawned e b :: u.batchEvents bs

def events (s : Store R V) : Change R V → List (Event R V)
  | .spawn b =>
    match s.spawn b with
    | .error _ => []
    | .ok (e, _) => [.spawned e b]
  | .spawnNamed b name =>
    match s.spawn b with
    | .error _ => []
    | .ok (e, _) => [.spawned e b, .named e name]
  | .spawnBatch bs => s.batchEvents bs
  | .attach e b =>
    match s.attach e b with
    | .error _ => []
    | .ok _ => [.attached e b]
  | .write schema es vs =>
    match s.write schema es vs with
    | .error _ => []
    | .ok _ => [.written schema (es.zip vs)]
  | .insertAsset kind content => [.added kind content]
  | .freeze => [.frozen]

def log (s : Store R V) : List (Change R V) → List (Event R V)
  | [] => []
  | change :: changes => s.events change ++ (s.apply change).2.log changes

lemma spawnBatch_run (s : Store R V) (bs : List (Bundle R)) : Run s (s.batchEvents bs) (s.spawnBatch bs).2 := by
  induction bs generalizing s with
  | nil => exact .nil
  | cons b bs ih =>
    rw [batchEvents, spawnBatch]
    cases h : s.spawn b with
    | error e => exact .nil
    | ok p =>
      obtain ⟨e, u⟩ := p
      have hrest : Run s (.spawned e b :: u.batchEvents bs) (u.spawnBatch bs).2 := .cons (.spawned h) (ih u)
      dsimp only
      split
      · rename_i hu
        rwa [hu] at hrest
      · rename_i hu
        rwa [hu] at hrest

lemma apply_run (s : Store R V) (change : Change R V) : Run s (s.events change) (s.apply change).2 := by
  cases change with
  | spawn b =>
    simp only [events, apply]
    cases h : s.spawn b with
    | error e => exact .nil
    | ok p => exact (Step.spawned h).run
  | spawnNamed b name =>
    simp only [events, apply, spawnNamed]
    cases h : s.spawn b with
    | error e => exact .nil
    | ok p => exact .cons (.spawned h) Step.named.run
  | spawnBatch bs => exact s.spawnBatch_run bs
  | attach e b =>
    simp only [events, apply]
    cases h : s.attach e b with
    | error e => exact .nil
    | ok u => exact (Step.attached h).run
  | write schema es vs =>
    simp only [events, apply]
    cases h : s.write schema es vs with
    | error e => exact .nil
    | ok u => exact (Step.written h).run
  | insertAsset kind content => exact Step.added.run
  | freeze => exact Step.frozen.run

lemma applyAll_run (s : Store R V) (changes : List (Change R V)) : Run s (s.log changes) (s.applyAll changes) := by
  induction changes generalizing s with
  | nil => exact .nil
  | cons change changes ih => exact (s.apply_run change).append (ih _)

end Store

end ColumnSim
