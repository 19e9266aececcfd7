import ColumnSim.Proofs.Failure
import ColumnSim.Proofs.Reachable

namespace ColumnSim.Store

variable {R : Type} {V : AssetKind → Type} {s u : Store R V} {schema : Schema} {es : List EntityId}
  {vs : List (schema.Value R)}

lemma apply_write_eq_error {error : Error} (h : s.write schema es vs = .error error) :
    s.apply (.write schema es vs) = (.error error, s) := by
  rw [apply, h]
  rfl

lemma apply_write_eq_ok (h : s.write schema es vs = .ok u) : s.apply (.write schema es vs) = (.ok .done, u) := by
  rw [apply, h]
  rfl

lemma write_eq_rowCountMismatch (h : es.length ≠ vs.length) :
    s.write schema es vs = .error (.rowCountMismatch schema.name es.length vs.length) := by
  rw [write, if_pos h]
  rfl

lemma write_eq_rejected {error : Error} (hlen : es.length = vs.length) (h : s.Rejects schema error) :
    s.write schema es vs = .error error := by
  rw [write, if_neg (not_not.2 hlen), checkSchema_eq_error_iff.2 h]
  rfl

lemma Valid.write_eq_first_fault (hs : s.Valid) (hlen : es.length = vs.length) (ha : s.Agrees schema) {i : Nat}
    {e : EntityId} (hi : es[i]? = some e) (hfront : ∀ j < i, ∀ f, es[j]? = some f → s.Holds f schema.id)
    (he : ¬s.Holds e schema.id) : s.write schema es vs =
      .error (if s.entities.contains e then .missingOutput e schema.name else .neverSpawned e) := by
  obtain ⟨hlt, hget⟩ := List.getElem?_eq_some_iff.1 hi
  have hes : es = es.take i ++ e :: es.drop (i + 1) := by
    rw [← hget, ← List.drop_eq_getElem_cons hlt, List.take_append_drop]
  apply write_eq_target_error hlen ha hes
  · intro f hf
    obtain ⟨j, hj, rfl⟩ := List.mem_take_iff_getElem.1 hf
    have hji : j < i ∧ j < es.length := Nat.lt_min.1 hj
    exact hs.exists_target_iff.2 (hfront j hji.1 _ (List.getElem?_eq_getElem hji.2))
  · exact target_eq_error (Option.eq_none_iff_forall_ne_some.2 fun p hp => he (hs.holds_iff.2 ⟨p, hp⟩))

namespace Valid

variable (hs : s.Valid) (h : s.write schema es vs = .ok u)

include hs h

lemma get_write {j : Nat} {e : EntityId} {v : schema.Value R} (he : es[j]? = some e) (hv : vs[j]? = some v)
    (hlast : ∀ k, j < k → es[k]? ≠ some e) : u.get schema e = .ok (some v) := by
  obtain ⟨hlen, ha, _⟩ := write_eq_ok_iff.1 h
  have hau : u.Agrees schema := by rwa [Agrees, schema?_of_outline (outline_write h)]
  have hnames : (es.zip vs).map (·.1) = es := List.map_fst_zip (Nat.le_of_eq hlen)
  have hentry : (es.zip vs)[j]? = some (e, v) := List.getElem?_zip_eq_some.2 ⟨he, hv⟩
  apply get_of_cell? hau
  rw [hs.cell?_write h, if_pos rfl, lastOf?_eq_of_last hentry (hnames.symm ▸ hlast)]
  rfl

lemma cell?_write_of_ne {e : EntityId} {c : ComponentId} (hother : e ∈ es → c ≠ schema.id) :
    u.cell? e c = s.cell? e c := by
  have hlen := (write_eq_ok_iff.1 h).1
  rw [hs.cell?_write h]
  split
  · rename_i hc
    have he : e ∉ (es.zip vs).map (·.1) := fun hm => by
      rw [List.map_fst_zip (Nat.le_of_eq hlen)] at hm
      exact hother hm hc
    rw [lastOf?_eq_none he]
    rfl
  · rfl

end Valid

theorem Reachable.apply_write (hs : s.Reachable) (schema : Schema) (es : List EntityId)
    (vs : List (schema.Value R)) :
    (es.length ≠ vs.length → s.apply (.write schema es vs) =
      (.error (.rowCountMismatch schema.name es.length vs.length), s)) ∧
    (es.length = vs.length → ∀ registered, s.schema? schema.id = some registered →
      registered.layout ≠ schema.layout → s.apply (.write schema es vs) =
        (.error (.typeMismatch registered.name registered.layout schema.layout), s)) ∧
    (es.length = vs.length → s.Agrees schema →
      (∀ (i : Nat) e, es[i]? = some e → (∀ j < i, ∀ f, es[j]? = some f → s.Holds f schema.id) → ¬s.Holds e schema.id →
        s.apply (.write schema es vs) =
          (.error (if s.entities.contains e then .missingOutput e schema.name else .neverSpawned e), s)) ∧
      ((∀ e ∈ es, s.Holds e schema.id) → ∃ u, s.apply (.write schema es vs) = (.ok .done, u) ∧
        (∀ (j : Nat) e v, es[j]? = some e → vs[j]? = some v → (∀ k, j < k → es[k]? ≠ some e) →
          u.get schema e = .ok (some v)) ∧
        (∀ e c, (e ∈ es → c ≠ schema.id) → u.cell? e c = s.cell? e c) ∧
        u.outline = s.outline)) := by
  have hv := hs.valid
  refine ⟨fun hlen => apply_write_eq_error (write_eq_rowCountMismatch hlen), fun hlen registered hr hl => ?_,
    fun hlen ha => ⟨fun i e hi hfront he => ?_, fun hall => ?_⟩⟩
  · exact apply_write_eq_error (write_eq_rejected hlen ⟨registered, hr, hl, rfl⟩)
  · exact apply_write_eq_error (hv.write_eq_first_fault hlen ha hi hfront he)
  · obtain ⟨u, hu⟩ := exists_write hlen ha fun e he => hv.exists_target_iff.2 (hall e he)
    exact ⟨u, apply_write_eq_ok hu, fun _ _ _ => hv.get_write hu, fun _ _ => hv.cell?_write_of_ne hu,
      outline_write hu⟩

theorem Reachable.apply_write_mass : ∃ (s u : Store Nat Tokens) (vs : List (Vector Nat 1)), s.Reachable ∧
    vs = [#v[7], #v[8], #v[9]] ∧
    s.apply (.write (.scalar "mass" .f64) [⟨0⟩, ⟨1⟩, ⟨0⟩] vs) = (.ok .done, u) ∧
    u.get (.scalar "mass" .f64) ⟨0⟩ = .ok (some #v[9]) ∧
    s.apply (.write (.scalar "mass" .f64) [⟨0⟩, ⟨2⟩, ⟨3⟩] vs) = (.error (.missingOutput ⟨2⟩ "mass"), s) := by
  let mass : Schema := .scalar "mass" .f64
  let rock : Bundle Nat := (Bundle.empty "rock").add mass #v[5]
  let fire : Bundle Nat := (Bundle.empty "fire").add (.scalar "heat" .f64) #v[8]
  let s : Store Nat Tokens := empty.applyAll [.spawn rock, .spawn rock, .spawn fire]
  let vs : List (mass.Value Nat) := [#v[7], #v[8], #v[9]]
  have hs : s.Reachable := ⟨_, rfl⟩
  have ha : s.Agrees mass := checkSchema_eq_ok_iff.1 (by decide +kernel)
  have hholders : s.entitiesWith mass.id = [⟨0⟩, ⟨1⟩] := by decide +kernel
  have hspawned : s.entities.contains ⟨2⟩ = true := by decide +kernel
  have hholds : ∀ e, s.Holds e mass.id ↔ e = ⟨0⟩ ∨ e = ⟨1⟩ := fun e => by
    rw [← hs.valid.mem_entitiesWith_iff, hholders, List.mem_pair]
  obtain ⟨u, hu, hget, _⟩ := ((hs.apply_write mass [⟨0⟩, ⟨1⟩, ⟨0⟩] vs).2.2 rfl ha).2 (by simp [hholds])
  have hlast : u.get mass ⟨0⟩ = .ok (some #v[9]) := hget 2 ⟨0⟩ #v[9] rfl rfl fun k hk => by
    rw [List.getElem?_eq_none (show 3 ≤ k from hk)]
    simp
  have hfault := ((hs.apply_write mass [⟨0⟩, ⟨2⟩, ⟨3⟩] vs).2.2 rfl ha).1 1 ⟨2⟩ rfl
    (fun j hj f hf => by
      cases Nat.lt_one_iff.1 hj
      cases hf
      exact (hholds _).2 (.inl rfl))
    (by simp [hholds])
  rw [if_pos hspawned] at hfault
  exact ⟨s, u, vs, hs, rfl, hu, hlast, hfault⟩

end ColumnSim.Store
