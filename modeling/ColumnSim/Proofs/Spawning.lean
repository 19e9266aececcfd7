import ColumnSim.Proofs.ReadOrder

namespace ColumnSim

variable {R : Type} {V : AssetKind → Type}

namespace EntityId

def consecutive (start count : Nat) : List EntityId := (List.range' start count).map mk

lemma consecutive_succ (start count : Nat) :
    consecutive start (count + 1) = ⟨start⟩ :: consecutive (start + 1) count := by
  simp [consecutive, List.range'_succ]

lemma consecutive_append (start first second : Nat) :
    consecutive start first ++ consecutive (start + first) second = consecutive start (first + second) := by
  simp [consecutive, ← List.map_append, List.range'_append_1]

end EntityId

namespace Event

def spawned? : Event R V → Option EntityId
  | .spawned e _ => some e
  | _ => none

def issued (events : List (Event R V)) : List EntityId := events.filterMap spawned?

def rowCount (events : List (Event R V)) : Nat := (events.filterMap archetype?).length

end Event

def Receipt.issued : Receipt → List EntityId
  | .entity e => [e]
  | .entities es => es
  | _ => []

namespace Store

variable {s u : Store R V} {b : Bundle R} {bs : List (Bundle R)} {e : EntityId} {es : List EntityId} {error : Error}
  {event : Event R V} {events : List (Event R V)}

section Counting

lemma nextStamp_insert (s : Store R V) (e : EntityId) (b : Bundle R) :
    (s.insert e b).nextStamp = s.nextStamp + 1 :=
  congrArg (· + 1) (nextStamp_tableFor rfl)

lemma Step.issued (h : Step s event u) :
    u.entities.size = s.entities.size + (Event.issued [event]).length ∧
      Event.issued [event] = EntityId.consecutive s.entities.size (Event.issued [event]).length ∧
      u.nextStamp = s.nextStamp + Event.rowCount [event] := by
  cases h with
  | spawned h =>
    obtain ⟨_, rfl, rfl⟩ := spawn_eq_ok_iff.1 h
    exact ⟨congrArg Allocator.size (entities_insert _ _ _), rfl, nextStamp_insert _ _ _⟩
  | attached h =>
    obtain ⟨_, rfl⟩ := attach_eq_ok_iff.1 h
    exact ⟨congrArg Allocator.size (entities_insert _ _ _), rfl, nextStamp_insert _ _ _⟩
  | written h =>
    obtain ⟨_, rfl⟩ := eq_of_outline (outline_write h)
    exact ⟨rfl, rfl, rfl⟩
  | named => exact ⟨rfl, rfl, rfl⟩
  | added => exact ⟨rfl, rfl, rfl⟩
  | frozen => exact ⟨rfl, rfl, rfl⟩

lemma Run.issued (h : Run s events u) :
    u.entities.size = s.entities.size + (Event.issued events).length ∧
      Event.issued events = EntityId.consecutive s.entities.size (Event.issued events).length ∧
      u.nextStamp = s.nextStamp + Event.rowCount events := by
  induction h with
  | nil => exact ⟨rfl, rfl, rfl⟩
  | @cons s u w event events h _ ih =>
    obtain ⟨hsize, hids, hstamp⟩ := h.issued
    obtain ⟨hsizes, hrest, hstamps⟩ := ih
    have hissued : Event.issued (event :: events) = Event.issued [event] ++ Event.issued events :=
      List.filterMap_append (l := [event])
    have hrows : Event.rowCount (event :: events) = Event.rowCount [event] + Event.rowCount events := by
      rw [Event.rowCount, ← List.singleton_append, List.filterMap_append, List.length_append]
      rfl
    rw [hissued, List.length_append, hrows]
    refine ⟨by omega, ?_, by omega⟩
    -- The rest counts on from the number of entities that the first event leaves.
    rw [← EntityId.consecutive_append, ← hsize, ← hids, ← hrest]

end Counting

section Batch

def spawnEach (s : Store R V) (bs : List (Bundle R)) : Store R V := s.applyAll (bs.map .spawn)

lemma spawnEach_cons (h : s.spawn b = .ok (e, u)) (bs : List (Bundle R)) :
    s.spawnEach (b :: bs) = u.spawnEach bs := by
  rw [spawnEach, List.map_cons, applyAll, List.foldl_cons, apply, h]
  rfl

def SpawnsEach (s : Store R V) (bs : List (Bundle R)) : Prop :=
  ∀ front b back, bs = front ++ b :: back → ∃ e u, (s.spawnEach front).spawn b = .ok (e, u)

lemma spawnsEach_nil : s.SpawnsEach [] := fun front b back h => by simp at h

lemma spawnsEach_cons_iff : s.SpawnsEach (b :: bs) ↔ ∃ e u, s.spawn b = .ok (e, u) ∧ u.SpawnsEach bs := by
  constructor
  · intro h
    obtain ⟨e, u, hb⟩ := h [] b bs rfl
    refine ⟨e, u, hb, fun front c back heq => ?_⟩
    rw [← spawnEach_cons hb]
    exact h (b :: front) c back (congrArg (b :: ·) heq)
  · rintro ⟨e, u, hb, h⟩ front c back heq
    cases front with
    | nil =>
      cases heq
      exact ⟨e, u, hb⟩
    | cons head front =>
      cases heq
      rw [spawnEach_cons hb]
      exact h front c back rfl

lemma spawnsEach_or (s : Store R V) (bs : List (Bundle R)) : s.SpawnsEach bs ∨ ∃ front b back error,
    bs = front ++ b :: back ∧ s.SpawnsEach front ∧ (s.spawnEach front).spawn b = .error error := by
  induction bs generalizing s with
  | nil => exact .inl spawnsEach_nil
  | cons b bs ih =>
    cases hb : s.spawn b with
    | error error => exact .inr ⟨[], b, bs, error, rfl, spawnsEach_nil, hb⟩
    | ok p =>
      obtain ⟨e, u⟩ := p
      rcases ih u with h | ⟨front, c, back, error, rfl, h, hc⟩
      · exact .inl (spawnsEach_cons_iff.2 ⟨e, u, hb, h⟩)
      · refine .inr ⟨b :: front, c, back, error, rfl, spawnsEach_cons_iff.2 ⟨e, u, hb, h⟩, ?_⟩
        rwa [spawnEach_cons hb]

lemma spawn_issued (h : s.spawn b = .ok (e, u)) :
    e = ⟨s.entities.size⟩ ∧ u.entities.size = s.entities.size + 1 := by
  obtain ⟨hsize, hid, _⟩ := (Step.spawned h).issued
  exact ⟨List.head_eq_of_cons_eq hid, hsize⟩

lemma log_spawn_cons (h : s.spawn b = .ok (e, u)) (changes : List (Change R V)) :
    s.log (.spawn b :: changes) = .spawned e b :: u.log changes := by
  rw [log, events, h, apply, h]
  rfl

lemma spawnBatch_append {front : List (Bundle R)} (h : s.SpawnsEach front) (bs : List (Bundle R)) :
    s.spawnBatch (front ++ bs) =
      (((s.spawnEach front).spawnBatch bs).1.map (EntityId.consecutive s.entities.size front.length ++ ·),
        ((s.spawnEach front).spawnBatch bs).2) := by
  induction front generalizing s with
  | nil =>
    change s.spawnBatch bs = ((s.spawnBatch bs).1.map fun es => es, (s.spawnBatch bs).2)
    rcases s.spawnBatch bs with ⟨_ | _, _⟩ <;> rfl
  | cons b front ih =>
    obtain ⟨e, u, hb, hu⟩ := spawnsEach_cons_iff.1 h
    obtain ⟨rfl, hsize⟩ := spawn_issued hb
    rw [List.cons_append, spawnBatch, hb, spawnEach_cons hb, List.length_cons, EntityId.consecutive_succ, ← hsize]
    dsimp only
    rw [ih hu]
    rcases (u.spawnEach front).spawnBatch bs with ⟨_ | _, _⟩ <;> rfl

lemma batchEvents_append {front : List (Bundle R)} (h : s.SpawnsEach front) (bs : List (Bundle R)) :
    s.batchEvents (front ++ bs) = s.log (front.map .spawn) ++ (s.spawnEach front).batchEvents bs := by
  induction front generalizing s with
  | nil => rfl
  | cons b front ih =>
    obtain ⟨e, u, hb, hu⟩ := spawnsEach_cons_iff.1 h
    rw [List.cons_append, batchEvents, hb, spawnEach_cons hb, List.map_cons, log_spawn_cons hb, List.cons_append,
      ← ih hu]

lemma issued_log_spawn (h : s.SpawnsEach bs) :
    Event.issued (s.log (bs.map .spawn)) = EntityId.consecutive s.entities.size bs.length := by
  induction bs generalizing s with
  | nil => rfl
  | cons b bs ih =>
    obtain ⟨e, u, hb, hu⟩ := spawnsEach_cons_iff.1 h
    obtain ⟨rfl, hsize⟩ := spawn_issued hb
    rw [List.map_cons, log_spawn_cons hb, List.length_cons, EntityId.consecutive_succ, ← hsize, ← ih hu]
    rfl

lemma spawnBatch_of_spawnsEach (h : s.SpawnsEach bs) :
    s.spawnBatch bs = (.ok (EntityId.consecutive s.entities.size bs.length), s.spawnEach bs) := by
  have happend := spawnBatch_append h []
  rwa [List.append_nil, spawnBatch, Except.map, List.append_nil] at happend

lemma spawnBatch_of_error {front back : List (Bundle R)} (h : s.SpawnsEach front)
    (hb : (s.spawnEach front).spawn b = .error error) :
    s.spawnBatch (front ++ b :: back) = (.error error, s.spawnEach front) := by
  rw [spawnBatch_append h, spawnBatch, hb]
  rfl

lemma spawnBatch_eq_ok_iff : s.spawnBatch bs = (.ok es, u) ↔
    s.SpawnsEach bs ∧ es = EntityId.consecutive s.entities.size bs.length ∧ u = s.spawnEach bs := by
  constructor
  · intro hok
    rcases s.spawnsEach_or bs with h | ⟨front, b, back, error, rfl, h, hb⟩
    · rw [spawnBatch_of_spawnsEach h] at hok
      cases hok
      exact ⟨h, rfl, rfl⟩
    · rw [spawnBatch_of_error h hb] at hok
      cases hok
  · rintro ⟨h, rfl, rfl⟩
    exact spawnBatch_of_spawnsEach h

lemma spawnBatch_eq_error_iff : s.spawnBatch bs = (.error error, u) ↔ ∃ front b back, bs = front ++ b :: back ∧
    s.SpawnsEach front ∧ (s.spawnEach front).spawn b = .error error ∧ u = s.spawnEach front := by
  constructor
  · intro herror
    rcases s.spawnsEach_or bs with h | ⟨front, b, back, e, rfl, h, hb⟩
    · rw [spawnBatch_of_spawnsEach h] at herror
      cases herror
    · rw [spawnBatch_of_error h hb] at herror
      cases herror
      exact ⟨front, b, back, rfl, h, hb, rfl⟩
  · rintro ⟨front, b, back, rfl, h, hb, rfl⟩
    exact spawnBatch_of_error h hb

end Batch

section Receipts

variable {change : Change R V} {receipt : Receipt}

lemma apply_or (s : Store R V) (h : ∀ bs, change ≠ .spawnBatch bs) :
    (∃ error, s.apply change = (.error error, s) ∧ s.events change = []) ∨
      ∃ receipt, (s.apply change).1 = .ok receipt ∧ receipt.issued = Event.issued (s.events change) := by
  cases change with
  | spawn b =>
    cases hb : s.spawn b with
    | error error => exact .inl ⟨error, by rw [apply, hb]; rfl, by rw [events, hb]⟩
    | ok p => exact .inr ⟨.entity p.1, by rw [apply, hb]; rfl, by rw [events, hb]; rfl⟩
  | spawnNamed b name =>
    cases hb : s.spawn b with
    | error error => exact .inl ⟨error, by rw [apply, spawnNamed, hb]; rfl, by rw [events, hb]⟩
    | ok p => exact .inr ⟨.entity p.1, by rw [apply, spawnNamed, hb]; rfl, by rw [events, hb]; rfl⟩
  | spawnBatch bs => exact absurd rfl (h bs)
  | attach e b =>
    cases hb : s.attach e b with
    | error error => exact .inl ⟨error, by rw [apply, hb]; rfl, by rw [events, hb]⟩
    | ok u => exact .inr ⟨.done, by rw [apply, hb]; rfl, by rw [events, hb]; rfl⟩
  | write schema es vs =>
    cases hw : s.write schema es vs with
    | error error => exact .inl ⟨error, by rw [apply, hw]; rfl, by rw [events, hw]⟩
    | ok u => exact .inr ⟨.done, by rw [apply, hw]; rfl, by rw [events, hw]; rfl⟩
  | insertAsset kind content => exact .inr ⟨_, rfl, rfl⟩
  | freeze => exact .inr ⟨_, rfl, rfl⟩

lemma eq_of_apply_error (h : ∀ bs, change ≠ .spawnBatch bs) (he : (s.apply change).1 = .error error) :
    (s.apply change).2 = s ∧ s.events change = [] := by
  rcases s.apply_or h with ⟨_, happly, hevents⟩ | ⟨_, hok, _⟩
  · exact ⟨by rw [happly], hevents⟩
  · rw [hok] at he
    cases he

lemma issued_of_apply_ok (hok : (s.apply change).1 = .ok receipt) :
    receipt.issued = Event.issued (s.events change) := by
  by_cases h : ∀ bs, change ≠ .spawnBatch bs
  · rcases s.apply_or h with ⟨_, happly, _⟩ | ⟨_, happly, hissued⟩
    · rw [happly] at hok
      cases hok
    · rw [happly] at hok
      cases hok
      exact hissued
  · obtain ⟨bs, rfl⟩ : ∃ bs, change = .spawnBatch bs := by simpa using h
    obtain ⟨es, hes, rfl⟩ := map_eq_ok_iff.1 hok
    obtain ⟨hbs, rfl, _⟩ := spawnBatch_eq_ok_iff.1 (Prod.ext hes rfl)
    rw [events, ← List.append_nil bs, batchEvents_append hbs, batchEvents, List.append_nil, List.append_nil,
      issued_log_spawn hbs]
    rfl

end Receipts

theorem issued_in_order :
    (∀ changes : List (Change R V),
      Event.issued (empty.log changes) = EntityId.consecutive 0 (empty.applyAll changes : Store R V).entities.size ∧
      (empty.applyAll changes).nextStamp = Event.rowCount (empty.log changes)) ∧
    (∀ (s : Store R V) change,
      (∀ receipt, (s.apply change).1 = .ok receipt → receipt.issued = Event.issued (s.events change)) ∧
      ∀ error, (s.apply change).1 = .error error → (∀ bs, change ≠ .spawnBatch bs) →
        (s.apply change).2 = s ∧ s.events change = []) ∧
    (∀ (s : Store R V) bs es u, s.spawnBatch bs = (.ok es, u) ↔
      s.SpawnsEach bs ∧ es = EntityId.consecutive s.entities.size bs.length ∧ u = s.spawnEach bs) ∧
    ∀ (s : Store R V) bs error u, s.spawnBatch bs = (.error error, u) ↔ ∃ front b back, bs = front ++ b :: back ∧
      s.SpawnsEach front ∧ (s.spawnEach front).spawn b = .error error ∧ u = s.spawnEach front ∧
        s.events (.spawnBatch bs) = s.log (front.map .spawn) := by
  refine ⟨fun changes => ?_, fun s change => ⟨fun receipt => issued_of_apply_ok, fun error he h =>
    eq_of_apply_error h he⟩, fun s bs es u => spawnBatch_eq_ok_iff, fun s bs error u => ?_⟩
  · obtain ⟨hsize, hids, hstamp⟩ := (applyAll_run (empty : Store R V) changes).issued
    rw [hsize, hstamp]
    exact ⟨hids.trans (congrArg _ (Nat.zero_add _).symm), Nat.zero_add _⟩
  · rw [spawnBatch_eq_error_iff]
    constructor
    · rintro ⟨front, b, back, rfl, h, hb, rfl⟩
      refine ⟨front, b, back, rfl, h, hb, rfl, ?_⟩
      rw [events, batchEvents_append h, batchEvents, hb, List.append_nil]
    · rintro ⟨front, b, back, rfl, h, hb, rfl, _⟩
      exact ⟨front, b, back, rfl, h, hb, rfl⟩

theorem issued_in_order_rock : ∃ (rock pebble : Bundle Nat) (s : Store Nat Tokens),
    s = empty.applyAll [.spawnBatch [rock, pebble, rock], .attach ⟨0⟩ rock, .spawnNamed rock "last"] ∧
    Event.issued ((empty : Store Nat Tokens).log
      [.spawnBatch [rock, pebble, rock], .attach ⟨0⟩ rock, .spawnNamed rock "last"]) = [⟨0⟩, ⟨1⟩] ∧
    s.entities.size = 2 ∧ s.nextStamp = 2 ∧
    s.apply (.attach ⟨0⟩ rock) = (.error (.alreadyHeld ⟨0⟩ "mass"), s) ∧
    (empty : Store Nat Tokens).spawnBatch [rock, pebble, rock] =
      (.error (.typeMismatch "mass" ⟨.f64, []⟩ ⟨.u64, []⟩), empty.spawnEach [rock]) ∧
    s.spawnBatch [rock, rock] = (.ok [⟨2⟩, ⟨3⟩], s.spawnEach [rock, rock]) := by
  let rock : Bundle Nat := (Bundle.empty "rock").add (.scalar "mass" .f64) #v[5]
  let pebble : Bundle Nat := (Bundle.empty "pebble").add (.scalar "mass" .u64) #v[5]
  let changes : List (Change Nat Tokens) :=
    [.spawnBatch [rock, pebble, rock], .attach ⟨0⟩ rock, .spawnNamed rock "last"]
  let s : Store Nat Tokens := empty.applyAll changes
  obtain ⟨hhistory, hchange, hok, herror⟩ := issued_in_order (R := Nat) (V := Tokens)
  obtain ⟨hids, _⟩ := hhistory changes
  have hs : s = empty.applyAll changes := rfl
  have hsize : s.entities.size = 2 := by decide +kernel
  have hstamp : s.nextStamp = 2 := by decide +kernel
  have hrefused : (s.apply (.attach ⟨0⟩ rock)).1 = .error (.alreadyHeld ⟨0⟩ "mass") := by decide +kernel
  have hbatch : (s.spawnBatch [rock, rock]).1 = .ok [⟨2⟩, ⟨3⟩] := by decide +kernel
  have hfirst : (empty : Store Nat Tokens).SpawnsEach [rock] :=
    spawnsEach_cons_iff.2 ⟨⟨0⟩, empty.applyAll [.spawn rock], rfl, spawnsEach_nil⟩
  have hpebble : ((empty : Store Nat Tokens).spawnEach [rock]).spawn pebble =
      .error (.typeMismatch "mass" ⟨.f64, []⟩ ⟨.u64, []⟩) := rfl
  have hevents : (empty : Store Nat Tokens).events (.spawnBatch [rock, pebble, rock]) = empty.log [.spawn rock] := rfl
  clear_value s rock pebble
  have hids : Event.issued ((empty : Store Nat Tokens).log changes) = [⟨0⟩, ⟨1⟩] := by
    rw [hids, ← hs, hsize]
    rfl
  have hsame := ((hchange s (.attach ⟨0⟩ rock)).2 _ hrefused fun bs h => by cases h).1
  obtain ⟨_, _, hafter⟩ := (hok s [rock, rock] [⟨2⟩, ⟨3⟩] (s.spawnBatch [rock, rock]).2).1 (Prod.ext hbatch rfl)
  refine ⟨rock, pebble, s, hs, hids, hsize, hstamp, Prod.ext hrefused hsame,
    (herror _ _ _ _).2 ⟨[rock], pebble, [rock], rfl, hfirst, hpebble, rfl, hevents⟩, Prod.ext hbatch hafter⟩

end Store

end ColumnSim
