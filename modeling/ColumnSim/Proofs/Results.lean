import ColumnSim.Proofs.Sort
import ColumnSim.Proofs.Write

namespace ColumnSim

variable {R : Type} {V : AssetKind → Type} {s u : Store R V} {schema : Schema}
  {entries : List (EntityId × schema.Value R)}

namespace ColumnWrite

def ofEntries (entries : List (EntityId × schema.Value R)) : ColumnWrite R schema :=
  ⟨entries.map (·.1), entries.map (·.2)⟩

lemma length_ofEntries : (ofEntries entries).entities.length = (ofEntries entries).values.length := by
  simp [ofEntries]

lemma zip_ofEntries : (ofEntries entries).entities.zip (ofEntries entries).values = entries := by
  rw [ofEntries, List.zip_map']
  exact List.map_id _

lemma apply_eq_write {w : ColumnWrite R schema} (hlen : w.entities.length = w.values.length) (ha : s.Agrees schema) :
    w.apply s = s.write schema w.entities w.values := by
  obtain ⟨es, vs⟩ := w
  cases es with
  | nil =>
    cases vs with
    | nil => exact (Store.write_eq_ok_iff.2 ⟨rfl, ha, [], rfl, rfl⟩).symm
    | cons v vs => cases hlen
  | cons e es => rfl

end ColumnWrite

namespace Store.Valid

open ColumnWrite

variable (hs : s.Valid)

include hs

lemma exists_write_entries (ha : s.Agrees schema) (hall : ∀ entry ∈ entries, s.Holds entry.1 schema.id) :
    ∃ u, s.write schema (ofEntries entries).entities (ofEntries entries).values = .ok u := by
  apply exists_write length_ofEntries ha
  intro e he
  obtain ⟨entry, hm, rfl⟩ := List.mem_map.1 he
  exact hs.exists_target_iff.2 (hall entry hm)

variable (hasc : entries.Pairwise (·.1.raw < ·.1.raw))

include hasc

lemma write_entries (h : s.write schema (ofEntries entries).entities (ofEntries entries).values = .ok u) :
    (∀ e v, (e, v) ∈ entries → u.get schema e = .ok (some v)) ∧
      ∀ e other, (∀ v, (e, v) ∈ entries → other.id ≠ schema.id) → u.get other e = s.get other e := by
  have hout := outline_write h
  have hcell := fun e c => hs.cell?_write (f := e) (c := c) h
  have hnodup : (entries.map (·.1)).Nodup := nodup_map_of_strict hasc fun _ _ => congrArg EntityId.raw
  have hlast : ∀ {e v}, lastOf? entries e = some v ↔ (e, v) ∈ entries := lastOf?_eq_some_iff hnodup
  simp only [zip_ofEntries] at hcell
  constructor
  · intro e v hm
    have hagrees : u.Agrees schema := by
      have hr := (write_eq_ok_iff.1 h).2.1
      rwa [Agrees, ← schema?_of_outline hout] at hr
    apply get_of_cell? hagrees
    rw [hcell, if_pos rfl, hlast.2 hm]
    rfl
  · intro e other hother
    apply get_congr hout
    rw [hcell]
    split
    · rename_i hid
      have hnone := Option.eq_none_iff_forall_ne_some.2 fun v hv => hother v (hlast.1 hv) hid
      rw [hnone]
      rfl
    · rfl

lemma write_entries_missing (ha : s.Agrees schema) {e : EntityId} {v : schema.Value R} (hm : (e, v) ∈ entries)
    (hspawned : s.entities.contains e = true) (hn : ¬s.Holds e schema.id)
    (hmin : ∀ f w, (f, w) ∈ entries → ¬s.Holds f schema.id → e.raw ≤ f.raw) :
    s.write schema (ofEntries entries).entities (ofEntries entries).values =
      .error (.missingOutput e schema.name) := by
  obtain ⟨front, back, rfl⟩ := List.append_of_mem hm
  have hentities : (ofEntries (front ++ (e, v) :: back)).entities = front.map (·.1) ++ e :: back.map (·.1) :=
    List.map_append ..
  apply write_eq_target_error length_ofEntries ha hentities
  · intro f hf
    obtain ⟨⟨f, w⟩, hfront, rfl⟩ := List.mem_map.1 hf
    -- What stands in front of the lowest entity without the component is lower, and holds it.
    have hlt := (List.pairwise_append.1 hasc).2.2 _ hfront _ (List.mem_cons_self ..)
    refine hs.exists_target_iff.2 (not_not.1 fun hfn => ?_)
    exact Nat.not_le_of_lt hlt (hmin f w (List.mem_append_left _ hfront) hfn)
  · have hlocate := Option.eq_none_iff_forall_ne_some.2 fun p hp => hn (hs.holds_iff.2 ⟨p, hp⟩)
    rw [target_eq_error hlocate, if_pos hspawned]

end Store.Valid

end ColumnSim
