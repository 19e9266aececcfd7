import ColumnSim.Proofs.ReadOrder

namespace ColumnSim

variable {R : Type} {V : AssetKind → Type}

namespace Layout

lemma foldl_width_zero (ds : List Nat) : ds.foldl (fun n d => n * d % UInt64.size) 0 = 0 := by
  induction ds with
  | nil => rfl
  | cons d ds ih => rwa [List.foldl_cons, Nat.zero_mul, Nat.zero_mod]

lemma foldl_width_of_zero_mem {ds : List Nat} (n : Nat) (h : 0 ∈ ds) :
    ds.foldl (fun n d => n * d % UInt64.size) n = 0 := by
  obtain ⟨front, back, rfl⟩ := List.append_of_mem h
  rw [List.foldl_append, List.foldl_cons, Nat.mul_zero, Nat.zero_mod, foldl_width_zero]

lemma width_of_zero_mem {l : Layout} (h : 0 ∈ l.shape) : l.width = 0 := by
  obtain ⟨k, shape⟩ := l
  cases shape with
  | nil => cases h
  | cons d ds =>
    rcases List.mem_cons.1 h with h | h
    · exact h ▸ foldl_width_zero ds
    · exact foldl_width_of_zero_mem d h

end Layout

namespace Column

lemma toList_of_cell?_eq {schema : Schema} {xs : Array (schema.layout.kind.Elem R)} {row : Nat} {v : schema.Value R}
    (h : (⟨schema, schema.layout.kind, xs⟩ : Column R).cell? row = some (.ofValue v)) :
    (xs.toList.drop (row * schema.layout.width)).take schema.layout.width = v.toList := by
  have hlen : (row + 1) * schema.layout.width - row * schema.layout.width = schema.layout.width := by
    rw [Nat.succ_mul, Nat.add_sub_cancel_left]
  rw [cell?, Buffer.slice?] at h
  split at h
  · have helems := eq_of_heq (Buffer.mk.inj (Option.some.inj h)).2
    have hlist := congrArg Array.toList helems
    simp only [Array.toList_extract, List.extract_eq_take_drop, width, hlen] at hlist
    exact hlist
  · cases h

end Column

namespace ColumnArray

section Pieces

variable {A : Type} {count i : Nat}

lemma length_pieces (n count : Nat) (xs : List A) : (pieces n count xs).length = count := by
  induction count generalizing xs with
  | zero => rfl
  | succ count ih => rw [pieces, List.length_cons, ih]

lemma pieces_getElem? (n : Nat) (xs : List A) (hi : i < count) :
    (pieces n count xs)[i]? = some ((xs.drop (i * n)).take n) := by
  induction count generalizing xs i with
  | zero => exact absurd hi (Nat.not_lt_zero i)
  | succ count ih =>
    cases i with
    | zero => rw [pieces, List.getElem?_cons_zero, Nat.zero_mul, List.drop_zero]
    | succ i =>
      rw [pieces, List.getElem?_cons_succ, ih (xs.drop n) (Nat.lt_of_succ_lt_succ hi), List.drop_drop, Nat.succ_mul,
        Nat.add_comm]

end Pieces

variable {a : ColumnArray R} {l : Layout}

/-- The rows that decoding gives: one for each entity, unless the values have no elements. -/
structure Decodes (a : ColumnArray R) (l : Layout) (rows : List (List (l.kind.Elem R))) : Prop where
  length : rows.length = if l.width = 0 then 0 else a.size
  cells : l.width ≠ 0 → ∀ (i : Nat) (v : l.Value R), i < a.size → a.column.cell? i = some (.ofValue v) →
    rows[i]? = some v.toList

lemma exists_decodes (hfits : a.column.Fits a.size) (hl : a.schema.layout = l) :
    ∃ rows, a.values? l.kind = some rows ∧ a.Decodes l rows := by
  obtain ⟨⟨name, layout⟩, entities, k, xs⟩ := a
  cases hl
  have hkind : k = layout.kind := hfits.kind
  subst hkind
  have hsize : xs.size = entities.length * layout.width := hfits.size
  have hvalues : values? ⟨⟨name, layout⟩, entities, layout.kind, xs⟩ layout.kind =
      if layout.width = 0 then some [] else some (pieces layout.width (xs.size / layout.width) xs.toList) := by
    simp only [values?, Buffer.view_self]
  by_cases hw : layout.width = 0
  · exact ⟨[], hvalues.trans (if_pos hw), (if_pos hw).symm, fun h => absurd hw h⟩
  · have hcount : xs.size / layout.width = entities.length := by
      rw [hsize, Nat.mul_div_cancel _ (Nat.pos_of_ne_zero hw)]
    rw [if_neg hw, hcount] at hvalues
    refine ⟨_, hvalues, ?_, fun _ i v hi hcell => ?_⟩
    · rw [length_pieces, if_neg hw]
      rfl
    · exact (pieces_getElem? _ _ hi).trans (congrArg some (Column.toList_of_cell?_eq hcell))

end ColumnArray

namespace Store

variable {s : Store R V} {x : Schema}

/-- A registered component is read back from some entity, and decoding gives for each entity what it holds, unless the
values have no elements: then there are no rows. -/
theorem Reachable.values_read_back (hs : s.Reachable) (hx : s.RegistersAs x) : ∃ a rows, s.columnArray x.id = .ok a ∧
    a.values? x.layout.kind = some rows ∧ 0 < a.size ∧ rows.length = (if x.layout.width = 0 then 0 else a.size) ∧
    (0 ∈ x.layout.shape → rows = []) ∧
    ∀ (i : Nat) e, a.entities[i]? = some e → ∃ v : x.Value R, s.get x e = .ok (some v) ∧
      (x.layout.width ≠ 0 → rows[i]? = some v.toList) := by
  have hv := hs.valid
  have hagrees := hx.agrees
  obtain ⟨registered, hr, hl⟩ := hx
  obtain ⟨a, ha, rfl, hentities, hreads⟩ := hv.columnArray_reads hr
  obtain ⟨rows, hrows, hdecodes⟩ := ColumnArray.exists_decodes hreads.fits hl
  obtain ⟨holder, hholder⟩ := hs.attested x.id a.schema hr
  have hmem : ∀ e, e ∈ a.entities ↔ s.Holds e x.id := fun e => by rw [hentities, hv.mem_entitiesWith_iff]
  have hfirst := (hmem holder).2 (holds_iff_mem_holdings.2 ⟨a.schema, hholder, hv.schema_id hr⟩)
  have hnone : 0 ∈ x.layout.shape → rows = [] := fun h =>
    List.eq_nil_of_length_eq_zero (hdecodes.length.trans (if_pos (Layout.width_of_zero_mem h)))
  refine ⟨a, rows, ha, hrows, List.length_pos_of_mem hfirst, hdecodes.length, hnone, fun i e he => ?_⟩
  obtain ⟨v, hget, hcell⟩ := hv.get_of_reads hreads he ((hmem e).1 (List.mem_of_getElem? he)) rfl hagrees
  exact ⟨v, hget, fun hne => hdecodes.cells hne i v (List.getElem?_eq_some_iff.1 he).1 hcell⟩

theorem Reachable.values_read_back_spin : ∃ (s : Store Nat Tokens) (a : ColumnArray Nat) (rows : List (List Nat)),
    s.Reachable ∧ s.columnArray (.ofName "spin") = .ok a ∧ a.entities = [⟨0⟩, ⟨1⟩] ∧ a.values? .f64 = some rows ∧
    rows.length = 2 ∧ rows[1]? = some [3, 4] := by
  let spin : Schema := ⟨"spin", .f64, [2]⟩
  let top (m n : Nat) : Bundle Nat := (Bundle.empty "top").add spin #v[m, n]
  let changes : List (Change Nat Tokens) := [.spawn (top 1 2), .spawn (top 3 4)]
  let s : Store Nat Tokens := empty.applyAll changes
  have hspin : s.RegistersAs spin := ⟨spin, by decide +kernel, rfl⟩
  have hread : (s.columnArray spin.id).map (·.entities) = .ok [⟨0⟩, ⟨1⟩] := by decide +kernel
  have hlast : s.get spin ⟨1⟩ = .ok (some #v[3, 4]) := by decide +kernel
  obtain ⟨a, rows, ha, hrows, _, hlength, _, hvalues⟩ := Reachable.values_read_back ⟨changes, rfl⟩ hspin
  rw [ha] at hread
  have hentities : a.entities = [⟨0⟩, ⟨1⟩] := Except.ok.inj hread
  obtain ⟨v, hv, hrow⟩ := hvalues 1 ⟨1⟩ (by rw [hentities]; rfl)
  rw [hlast] at hv
  cases hv
  exact ⟨s, a, rows, ⟨changes, rfl⟩, ha, hentities, hrows, hlength.trans (congrArg List.length hentities),
    hrow (by decide)⟩

theorem Reachable.values_read_back_void : ∃ (s : Store Nat Tokens) (void : Schema) (a : ColumnArray Nat), s.Reachable ∧
    s.RegistersAs void ∧ s.columnArray void.id = .ok a ∧ a.entities = [⟨0⟩] ∧ (∃ v, s.get void ⟨0⟩ = .ok (some v)) ∧
    ∀ rows, a.values? void.layout.kind = some rows → rows.length ≠ a.size ∧ rows[0]? = none := by
  let void : Schema := ⟨"void", .f64, [0]⟩
  let changes : List (Change Nat Tokens) := [.spawn ((Bundle.empty "rock").add void #v[])]
  let s : Store Nat Tokens := empty.applyAll changes
  have hvoid : s.schema? void.id = some void := by decide +kernel
  have hread : (s.columnArray void.id).map (fun a => (a.entities, a.values? .f64)) = .ok ([⟨0⟩], some []) := by
    decide +kernel
  have hget : s.get void ⟨0⟩ = .ok (some #v[]) := by decide +kernel
  obtain ⟨a, ha, hread⟩ := map_eq_ok_iff.1 hread
  obtain ⟨hentities, hrows⟩ := Prod.mk.inj hread
  refine ⟨s, void, a, ⟨changes, rfl⟩, ⟨void, hvoid, rfl⟩, ha, hentities, ⟨_, hget⟩, fun rows h => ?_⟩
  have hnone : rows = [] := Option.some.inj (h.symm.trans hrows)
  rw [hnone, ColumnArray.size, hentities]
  exact ⟨Nat.zero_ne_one, rfl⟩

end Store

end ColumnSim
