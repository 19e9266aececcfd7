import ColumnSim.Proofs.Cell

namespace ColumnSim

variable {R : Type} {V : AssetKind → Type}

lemma eq_of_pieces {A : Type} {xs ys : Array A} {width rows : Nat} (hx : xs.size = rows * width)
    (hy : ys.size = rows * width)
    (h : ∀ row < rows, xs.extract (row * width) ((row + 1) * width) = ys.extract (row * width) ((row + 1) * width)) :
    xs = ys := by
  apply Array.ext_getElem?
  intro i
  by_cases hi : i < rows * width
  · have hrow : i / width < rows := Nat.div_lt_of_lt_mul (by rwa [Nat.mul_comm])
    have hwidth : 0 < width := Nat.pos_of_mul_pos_left (Nat.zero_lt_of_lt hi)
    have hj : i % width < width := Nat.mod_lt i hwidth
    have hsplit : i / width * width + i % width = i := Nat.div_add_mod' i width
    have hstop : (i / width + 1) * width ≤ rows * width := Nat.mul_le_mul_right _ hrow
    have hlen : (i / width + 1) * width - i / width * width = width := by rw [Nat.succ_mul]; omega
    have hpiece := congrArg (·[i % width]?) (h _ hrow)
    simp only [Array.getElem?_extract, hx, hy, Nat.min_eq_left hstop, hlen, hj, if_true, hsplit] at hpiece
    exact hpiece
  · rw [Array.getElem?_eq_none (by omega), Array.getElem?_eq_none (by omega)]

namespace Column

variable {c d : Column R} {rows : Nat}

lemma Fits.eq_of_cells (hc : c.Fits rows) (hd : d.Fits rows) (hschema : c.schema = d.schema)
    (h : ∀ row < rows, c.cell? row = d.cell? row) : c = d := by
  have hcell : ∀ {c : Column R} {row : Nat}, c.Fits rows → row < rows → c.cell? row =
      some ⟨c.data.kind, c.data.elems.extract (row * c.width) ((row + 1) * c.width)⟩ := fun {c row} hc hr =>
    if_pos ⟨Nat.mul_le_mul_right _ (Nat.le_succ _), hc.size ▸ Nat.mul_le_mul_right _ hr⟩
  obtain ⟨schema, k, xs⟩ := c
  obtain ⟨schema', k', ys⟩ := d
  cases hschema
  cases (hc.kind.trans hd.kind.symm : k = k')
  have hxs : xs = ys := eq_of_pieces hc.size hd.size fun row hr => by
    have heq := h row hr
    rw [hcell hc hr, hcell hd hr] at heq
    exact eq_of_heq (Buffer.mk.inj (Option.some.inj heq)).2
  rw [hxs]

end Column

namespace Table

variable {t u : Table R}

lemma Valid.eq_of_cells (ht : t.Valid) (hu : u.Valid) (h : t.outline = u.outline)
    (hcell : ∀ row < t.size, ∀ c, t.hasColumn c = true → t.cell? row c = u.cell? row c) : t = u := by
  obtain ⟨hname, hschemas, hindex, hentities, hstamps, hrows⟩ := outline_eq_iff.1 h
  have hsize : u.size = t.size := congrArg Array.size hentities.symm
  have hschema : ∀ i : Nat, (t.columns[i]?).map (·.schema) = (u.columns[i]?).map (·.schema) := fun i => by
    simpa [schemas] using congrArg (·[i]?) hschemas
  have hcolumns : t.columns = u.columns := by
    apply List.ext_getElem?
    intro i
    cases hc : t.columns[i]? with
    | none =>
      have hd := hschema i
      rw [hc] at hd
      exact (Option.map_eq_none_iff.1 hd.symm).symm
    | some c =>
      obtain ⟨d, hd, hsame⟩ : ∃ d, u.columns[i]? = some d ∧ d.schema = c.schema :=
        Option.map_eq_some_iff.1 ((hschema i).symm.trans (by rw [hc]; rfl))
      have hct := ht.column?_eq_some_iff.2 ⟨List.mem_of_getElem? hc, rfl⟩
      have hdu := hu.column?_eq_some_iff.2 ⟨List.mem_of_getElem? hd, congrArg Schema.id hsame⟩
      have hfits := hu.fits d (List.mem_of_getElem? hd)
      rw [hsize] at hfits
      rw [hd, (ht.fits c (List.mem_of_getElem? hc)).eq_of_cells hfits hsame.symm fun row hr => ?_]
      have heq := hcell row hr c.schema.id (ht.hasColumn_iff_column?.2 ⟨c, hct⟩)
      rwa [Table.cell?, Table.cell?, hct, hdu] at heq
  obtain ⟨_, columns, _, _, _, _⟩ := t
  obtain ⟨_, _, _, _, _, _⟩ := u
  cases hname; cases hcolumns; cases hindex; cases hentities; cases hstamps; cases hrows
  rfl

end Table

namespace Store.Valid

variable {s u : Store R V}

lemma cellAt?_eq_cell? (hs : s.Valid) {e : EntityId} {c : ComponentId} {p : Placement} (he : s.entityAt? p = some e)
    (hc : s.stores c p = true) : s.cellAt? p c = s.cell? e c := by
  rw [cell?, hs.locate?_eq_some_iff.2 ⟨he, hc⟩, Option.bind_some]

lemma eq_of_cells (hs : s.Valid) (hu : u.Valid) (h : u.outline = s.outline)
    (hcell : ∀ e c, u.cell? e c = s.cell? e c) : u = s := by
  have htables : u.tables = s.tables := by
    apply Array.ext_getElem?
    intro t
    cases hut : u.tables[t]? with
    | none =>
      have hnone := tables_outline s t
      rw [← h, tables_outline, hut] at hnone
      exact (Option.map_eq_none_iff.1 hnone.symm).symm
    | some table =>
      obtain ⟨other, hst, hout⟩ := table_of_outline h hut
      rw [hst, (hu.tables hut).eq_of_cells (hs.tables hst) hout fun row hr c hc => ?_]
      have hentity := Array.getElem?_eq_getElem hr
      have hstore : u.stores c ⟨t, row⟩ = true := stores_iff.2 ⟨table, hut, hc⟩
      have he : u.entityAt? ⟨t, row⟩ = some table.entities[row] := entityAt?_eq_some_iff.2 ⟨table, hut, hentity⟩
      have hes : s.entityAt? ⟨t, row⟩ = some table.entities[row] := by
        rw [← entityAt?_outline, ← h, entityAt?_outline, he]
      have hstores : s.stores c ⟨t, row⟩ = true := by rw [← stores_outline, ← h, stores_outline, hstore]
      have heq := (hu.cellAt?_eq_cell? he hstore).trans
        ((hcell _ c).trans (hs.cellAt?_eq_cell? hes hstores).symm)
      simpa [cellAt?, hut, hst] using heq
  obtain ⟨tables, rfl⟩ := eq_of_outline h
  cases htables
  rfl

end Store.Valid

end ColumnSim
