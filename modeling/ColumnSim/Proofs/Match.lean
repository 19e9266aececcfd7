import ColumnSim.Proofs.Join

namespace ColumnSim.Store

variable {R : Type} {V : AssetKind → Type} {s : Store R V} {inputs : List Schema} {e : EntityId}

def matched? (s : Store R V) : (inputs : List Schema) → EntityId → Option (Row R inputs)
  | [], _ => none
  | schema :: inputs, e => s.row? (schema :: inputs) e

lemma matched?_of_ne_nil (h : inputs ≠ []) (e : EntityId) : s.matched? inputs e = s.row? inputs e := by
  cases inputs with
  | nil => exact (h rfl).elim
  | cons schema inputs => rfl

lemma matched?_eq_some_iff (ha : ∀ schema ∈ inputs, s.Agrees schema) {row : Row R inputs} :
    s.matched? inputs e = some row ↔ inputs ≠ [] ∧ Row.Reads s e inputs row := by
  by_cases h : inputs = []
  · subst h
    simp [matched?]
  · rw [matched?_of_ne_nil h, row?_eq_some_iff ha, and_iff_right h]

lemma row?_congr {u : Store R V} (h : ∀ schema ∈ inputs, s.value? schema e = u.value? schema e) :
    s.row? inputs e = u.row? inputs e := by
  induction inputs with
  | nil => rfl
  | cons schema inputs ih =>
    obtain ⟨hschema, hinputs⟩ := List.forall_mem_cons.1 h
    have hrest := ih hinputs
    simp only [row?] at hrest ⊢
    rw [Row.read?, Row.read?, hschema, hrest]

lemma matched?_congr {u : Store R V} (h : ∀ schema ∈ inputs, s.value? schema e = u.value? schema e) :
    s.matched? inputs e = u.matched? inputs e := by
  cases inputs with
  | nil => rfl
  | cons schema inputs => exact row?_congr h

lemma query_map_congr {B : Type} {u : Store R V} (f : Query R inputs → B) (hschema : ∀ c, s.schema? c = u.schema? c)
    (h : (∀ schema ∈ inputs, s.Agrees schema) → (∀ schema ∈ inputs, u.Agrees schema) →
      f ⟨s.join inputs⟩ = f ⟨u.join inputs⟩) : (s.query inputs).map f = (u.query inputs).map f := by
  have hcheck : inputs.forM s.checkSchema = inputs.forM u.checkSchema :=
    congrArg inputs.forM (funext fun _ => checkSchema_congr (hschema _))
  cases hc : inputs.forM s.checkSchema with
  | error e => rw [query, query, ← hcheck, hc]; rfl
  | ok =>
    have ha : ∀ schema ∈ inputs, s.Agrees schema := fun schema hm =>
      checkSchema_eq_ok_iff.1 (forM_eq_ok_iff.1 hc schema hm)
    have hau : ∀ schema ∈ inputs, u.Agrees schema := fun schema hm =>
      checkSchema_eq_ok_iff.1 (forM_eq_ok_iff.1 (hcheck ▸ hc) schema hm)
    rw [query_eq_ok ha, query_eq_ok hau]
    exact congrArg Except.ok (h ha hau)

namespace Valid

variable (hs : s.Valid) (ha : ∀ schema ∈ inputs, s.Agrees schema)

include hs ha

lemma mem_join_iff_matched? {row : Row R inputs} :
    (e, row) ∈ s.join inputs ↔ s.matched? inputs e = some row := by
  by_cases h : inputs = []
  · subst h
    simp [join, leastBy?, matched?]
  · rw [hs.mem_join_iff h ha, matched?_eq_some_iff ha, and_iff_right h]

lemma join_ascending : (s.join inputs).Pairwise (·.1.raw < ·.1.raw) := by
  by_cases h : inputs = []
  · subst h
    exact .nil
  · exact hs.join_strict h ha

lemma row?_join (e : EntityId) : (Query.mk (s.join inputs)).row? e = s.matched? inputs e := by
  apply Option.ext
  intro row
  rw [row?_query_eq_some_iff (hs.join_ascending ha), hs.mem_join_iff_matched? ha]

lemma spawned_of_matched? {row : Row R inputs} (h : s.matched? inputs e = some row) :
    s.entities.contains e = true := by
  obtain ⟨hne, hrow⟩ := (matched?_eq_some_iff ha).1 h
  obtain ⟨schema, hm⟩ := List.exists_mem_of_ne_nil _ hne
  exact hs.spawned_of_holds ((hs.exists_reads_iff ha).1 ⟨row, hrow⟩ schema hm)

lemma join_congr {u : Store R V} (hu : u.Valid) (hau : ∀ schema ∈ inputs, u.Agrees schema)
    (hcell : ∀ schema ∈ inputs, ∀ e, s.cell? e schema.id = u.cell? e schema.id) : s.join inputs = u.join inputs := by
  apply eq_of_strict (hs.join_ascending ha) (hu.join_ascending hau)
  intro entry
  obtain ⟨e, row⟩ := entry
  rw [hs.mem_join_iff_matched? ha, hu.mem_join_iff_matched? hau, matched?_congr fun schema hm => ?_]
  rw [value?_eq_cell?, value?_eq_cell?, hcell schema hm e]

omit ha in
lemma query_congr {u : Store R V} (hu : u.Valid) (hschema : ∀ c, s.schema? c = u.schema? c)
    (hcell : ∀ schema ∈ inputs, ∀ e, s.cell? e schema.id = u.cell? e schema.id) :
    s.query inputs = u.query inputs := by
  have hmap : (s.query inputs).map id = (u.query inputs).map id :=
    query_map_congr id hschema fun ha hau => congrArg Query.mk (hs.join_congr ha hu hau hcell)
  rwa [Except.map_id] at hmap

end Valid

end ColumnSim.Store
