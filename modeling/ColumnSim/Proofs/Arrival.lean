import ColumnSim.Proofs.Reachable

/-! The order in which entities were given a component. The history and the stamps of the rows agree on it. -/

namespace ColumnSim

variable {R : Type} {V : AssetKind → Type} {e f : EntityId} {c : ComponentId}

namespace Event

def recipient? (c : ComponentId) : Event R V → Option EntityId
  | .spawned e b => if c ∈ b.schemas.map Schema.id then some e else none
  | .attached e b => if c ∈ b.schemas.map Schema.id then some e else none
  | _ => none

def recipients (events : List (Event R V)) (c : ComponentId) : List EntityId :=
  events.filterMap (recipient? c)

end Event

namespace Store

variable {s u : Store R V} {b : Bundle R} {n : Nat}

lemma stampAt?_tableFor {t : Nat} (h : s.tableFor b = (t, u)) (p : Placement) : u.stampAt? p = s.stampAt? p := by
  obtain ⟨_, rfl⟩ | ⟨_, _, rfl⟩ := tableFor_cases h
  · rfl
  · exact stampAt?_addTable

lemma nextStamp_tableFor {t : Nat} (h : s.tableFor b = (t, u)) : u.nextStamp = s.nextStamp := by
  obtain ⟨_, rfl⟩ | ⟨_, _, rfl⟩ := tableFor_cases h <;> rfl

lemma stamp?_of_outline (h : u.outline = s.outline) : u.stamp? e c = s.stamp? e c := by
  have hstamp : ∀ p, u.stampAt? p = s.stampAt? p := fun p => by rw [← stampAt?_outline, h, stampAt?_outline]
  change (u.locate? e c).bind u.stampAt? = (s.locate? e c).bind s.stampAt?
  rw [locate?_of_outline h, funext hstamp]

namespace Valid

lemma stamp?_eq_some_iff (hs : s.Valid) :
    s.stamp? e c = some n ↔ ∃ p, (s.entityAt? p = some e ∧ s.stores c p = true) ∧ s.stampAt? p = some n := by
  change (s.locate? e c).bind s.stampAt? = some n ↔ _
  rw [Option.bind_eq_some_iff]
  exact exists_congr fun p => and_congr_left fun _ => hs.locate?_eq_some_iff

lemma stamp?_lt (hs : s.Valid) (h : s.stamp? e c = some n) : n < s.nextStamp := by
  obtain ⟨p, _, hp⟩ := hs.stamp?_eq_some_iff.1 h
  exact (hs.stamps n).2 ⟨p, hp⟩

lemma stamp?_isSome_iff (hs : s.Valid) : (s.stamp? e c).isSome = true ↔ s.Holds e c := by
  rw [hs.holds_iff, Option.isSome_iff_exists]
  constructor
  · rintro ⟨n, hn⟩
    obtain ⟨p, hp, _⟩ := hs.stamp?_eq_some_iff.1 hn
    exact ⟨p, hs.locate?_eq_some_iff.2 hp⟩
  · rintro ⟨p, hp⟩
    have hpe := hs.locate?_eq_some_iff.1 hp
    obtain ⟨table, ht, _⟩ := entityAt?_eq_some_iff.1 hpe.1
    have hlt : p.row < table.stamps.size := (hs.tables ht).stamps.symm ▸ row_lt_size ht hpe.1
    refine ⟨table.stamps[p.row], hs.stamp?_eq_some_iff.2 ⟨p, hpe, ?_⟩⟩
    rw [stampAt?, ht, Option.bind_some, Array.getElem?_eq_getElem hlt]

lemma stamp?_insert_eq_some_iff (hs : s.Valid) (h : s.Takes e b) : (s.insert e b).stamp? f c = some n ↔
    (f = e ∧ c ∈ b.schemas.map Schema.id ∧ n = s.nextStamp) ∨ s.stamp? f c = some n := by
  have hi := hs.insert h
  obtain ⟨t, u, table, htu, hp⟩ := hs.tableFor h.accepts
  have hsizes := (hp.valid.tables hp.found).stamps
  have hcolumn : u.stores c ⟨t, table.size⟩ = true ↔ c ∈ b.schemas.map Schema.id := by
    rw [stores, hp.found, (hp.valid.tables hp.found).hasColumn_iff, hp.schemas]
  rw [hi.stamp?_eq_some_iff, hs.stamp?_eq_some_iff, Store.insert, htu]
  simp only [entityAt?_pushRow hp.found, stores_pushRow hp.found, stampAt?_pushRow hp.found hsizes,
    stampAt?_tableFor htu, nextStamp_tableFor htu, hp.entityAt?]
  constructor
  · rintro ⟨p, ⟨hpe, hpc⟩, hpn⟩
    split at hpe
    · rename_i hnew
      cases hpe
      rw [if_pos hnew] at hpn
      exact .inl ⟨rfl, hcolumn.1 (hnew ▸ hpc), (Option.some.inj hpn).symm⟩
    · rename_i hold
      rw [if_neg hold] at hpn
      exact .inr ⟨p, ⟨hpe, hp.stores c hpe ▸ hpc⟩, hpn⟩
  · rintro (⟨rfl, hc, rfl⟩ | ⟨p, ⟨hpe, hpc⟩, hpn⟩)
    · exact ⟨⟨t, table.size⟩, ⟨if_pos rfl, hcolumn.2 hc⟩, if_pos rfl⟩
    · have hold : p ≠ ⟨t, table.size⟩ := fun hnew => by
        rw [hnew, ← hp.entityAt?, entityAt?_end hp.found (Nat.le_refl _)] at hpe
        cases hpe
      exact ⟨p, ⟨by rw [if_neg hold, hpe], (hp.stores c hpe).trans hpc⟩, by rw [if_neg hold, hpn]⟩

end Valid

lemma Step.stamp?_eq_some_iff {event : Event R V} (h : Step s event u) (hs : s.Valid) : u.stamp? f c = some n ↔
    (event.recipient? c = some f ∧ n = s.nextStamp) ∨ s.stamp? f c = some n := by
  have hrecipient : ∀ {e : EntityId} {b : Bundle R}, (if c ∈ b.schemas.map Schema.id then some e else none) = some f ∧
      n = s.nextStamp ↔ f = e ∧ c ∈ b.schemas.map Schema.id ∧ n = s.nextStamp := by
    intro e b
    split <;> simp [*, eq_comm]
  cases h with
  | spawned h =>
    obtain ⟨hb, rfl, rfl⟩ := spawn_eq_ok_iff.1 h
    rw [Event.recipient?, hrecipient, hs.allocate.stamp?_insert_eq_some_iff (hs.takes_allocate hb)]
    rfl
  | attached h =>
    obtain ⟨ht, rfl⟩ := attach_eq_ok_iff.1 h
    rw [Event.recipient?, hrecipient, hs.stamp?_insert_eq_some_iff ht]
  | written h => simp [Event.recipient?, stamp?_of_outline (outline_write h)]
  | named => exact (or_iff_right fun h => nomatch h.1).symm
  | added => exact (or_iff_right fun h => nomatch h.1).symm
  | frozen => exact (or_iff_right fun h => nomatch h.1).symm

lemma Step.holds_iff {event : Event R V} (h : Step s event u) (hs : s.Valid) :
    u.Holds f c ↔ event.recipient? c = some f ∨ s.Holds f c := by
  rw [← hs.stamp?_isSome_iff, ← (h.valid hs).stamp?_isSome_iff, Option.isSome_iff_exists, Option.isSome_iff_exists]
  simp only [h.stamp?_eq_some_iff hs, exists_or, exists_and_left, exists_eq, and_true]

structure Arrived (s : Store R V) (c : ComponentId) (es : List EntityId) : Prop where
  mem : ∀ e, e ∈ es ↔ s.Holds e c
  ascending : es.Pairwise fun e f => ∀ m n, s.stamp? e c = some m → s.stamp? f c = some n → m < n

variable {es : List EntityId}

lemma arrived_empty : Arrived (empty : Store R V) c [] where
  mem e := by simp [Holds, empty]
  ascending := .nil

lemma Step.arrived {event : Event R V} (h : Step s event u) (hs : s.Valid) (ha : Arrived s c es) :
    Arrived u c (es ++ (event.recipient? c).toList) := by
  have hstamp := fun f n => h.stamp?_eq_some_iff (f := f) (c := c) (n := n) hs
  have hnewest : ∀ {f}, event.recipient? c = some f → u.stamp? f c = some s.nextStamp := fun hf =>
    (hstamp _ _).2 (.inl ⟨hf, rfl⟩)
  have hold : ∀ e ∈ es, ∀ n, u.stamp? e c = some n → s.stamp? e c = some n := by
    intro e he n hn
    rcases (hstamp e n).1 hn with ⟨hr, rfl⟩ | hn
    · obtain ⟨m, hm⟩ := Option.isSome_iff_exists.1 (hs.stamp?_isSome_iff.2 ((ha.mem e).1 he))
      rw [(hstamp e m).2 (.inr hm)] at hn
      exact (Nat.ne_of_lt (hs.stamp?_lt hm) (Option.some.inj hn)).elim
    · exact hn
  constructor
  · intro e
    rw [List.mem_append, ha.mem, h.holds_iff hs, Option.mem_toList]
    exact or_comm
  · refine List.pairwise_append.2 ⟨ha.ascending.imp_of_mem fun {e f} he hf hlt => ?_, ?_, fun e he f hf => ?_⟩
    · exact fun m n hm hn => hlt m n (hold e he m hm) (hold f hf n hn)
    · cases event.recipient? c with
      | none => exact .nil
      | some f => exact List.pairwise_singleton _ f
    · intro m n hm hn
      rw [hnewest (Option.mem_toList.1 hf)] at hn
      cases hn
      exact hs.stamp?_lt (hold e he m hm)

lemma Run.arrived {events : List (Event R V)} (h : Run s events u) (hs : s.Valid) (ha : Arrived s c es) :
    Arrived u c (es ++ Event.recipients events c) := by
  induction h generalizing es with
  | nil => simpa [Event.recipients] using ha
  | @cons s u w event events h _ ih =>
    have hrest := ih (h.valid hs) (h.arrived hs ha)
    have hcons : Event.recipients (event :: events) c = (event.recipient? c).toList ++ Event.recipients events c := by
      rw [Event.recipients, List.filterMap_cons]
      cases event.recipient? c <;> rfl
    rwa [hcons, ← List.append_assoc]

end Store

end ColumnSim
