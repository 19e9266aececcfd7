import ColumnSim.Proofs.History

namespace ColumnSim.Store

variable {R : Type} {V : AssetKind → Type} {s u : Store R V}

def Reachable (s : Store R V) : Prop := ∃ changes : List (Change R V), s = empty.applyAll changes

lemma Step.valid {event : Event R V} (h : Step s event u) (hs : s.Valid) : u.Valid := by
  cases h with
  | spawned h => exact hs.spawn h
  | named => exact hs.frame id
  | attached h => exact hs.attach h
  | written h => exact hs.write h
  | added => exact hs.frame id
  | frozen => exact hs.frame id

lemma Run.valid {events : List (Event R V)} (h : Run s events u) (hs : s.Valid) : u.Valid := by
  induction h with
  | nil => exact hs
  | cons h _ ih => exact ih (h.valid hs)

lemma Reachable.valid (hs : s.Reachable) : s.Valid := by
  obtain ⟨changes, rfl⟩ := hs
  exact (applyAll_run empty changes).valid empty_valid

namespace Valid

variable {c : ComponentId} {table : Table R}

lemma valid_of_mem (hs : s.Valid) (h : table ∈ s.tables) : table.Valid := by
  obtain ⟨t, ht⟩ := Array.mem_iff_getElem?.1 h
  exact hs.tables ht

lemma mem_holdersOf_iff (hs : s.Valid) {t : Nat} :
    t ∈ s.holdersOf c ↔ ∃ table, s.tables[t]? = some table ∧ c ∈ table.schemas.map Schema.id := by
  rw [hs.holders]
  exact exists_congr fun table => and_congr_right fun ht => (hs.tables ht).hasColumn_iff

lemma hasComponent_iff (hs : s.Valid) :
    s.hasComponent c = true ↔ ∃ table ∈ s.tables, c ∈ table.schemas.map Schema.id := by
  rw [hs.hasComponent, ← List.length_pos_iff, List.length_pos_iff_exists_mem]
  simp only [hs.mem_holdersOf_iff, Array.mem_iff_getElem?]
  constructor
  · rintro ⟨t, table, ht, hc⟩
    exact ⟨table, ⟨t, ht⟩, hc⟩
  · rintro ⟨table, ⟨t, ht⟩, hc⟩
    exact ⟨t, table, ht, hc⟩

lemma registry_contains (hs : s.Valid) : s.registry.contains c = s.hasComponent c := by
  rw [Bool.eq_iff_iff, ← hs.registered, schema?, Std.TreeMap.contains_eq_isSome_getElem?]

lemma existsUnique_name (hs : s.Valid) {t : Nat} (ht : t < s.tables.size) :
    ∃! name : ArchetypeName, s.archetypes[name]? = some t := by
  have htable := Array.getElem?_eq_getElem ht
  refine ⟨s.tables[t].name, (hs.archetypes _ t).2 ⟨_, htable, rfl⟩, fun name hn => ?_⟩
  obtain ⟨table, hfound, rfl⟩ := (hs.archetypes name t).1 hn
  rw [htable] at hfound
  cases hfound
  rfl

lemma stamped_iff (hs : s.Valid) {n : Nat} : n < s.nextStamp ↔ ∃ table ∈ s.tables, n ∈ table.stamps := by
  rw [hs.stamps n]
  constructor
  · rintro ⟨p, hp⟩
    obtain ⟨table, ht, hn⟩ := Option.bind_eq_some_iff.1 hp
    exact ⟨table, Array.mem_of_getElem? ht, Array.mem_of_getElem? hn⟩
  · rintro ⟨table, ht, hn⟩
    obtain ⟨t, ht⟩ := Array.mem_iff_getElem?.1 ht
    obtain ⟨row, hn⟩ := Array.mem_iff_getElem?.1 hn
    exact ⟨⟨t, row⟩, Option.bind_eq_some_iff.2 ⟨table, ht, hn⟩⟩

lemma stamps_pairwise (hs : s.Valid) (h : table ∈ s.tables) : table.stamps.toList.Pairwise (· < ·) := by
  obtain ⟨t, ht⟩ := Array.mem_iff_getElem?.1 h
  have hstamp : ∀ i, s.stampAt? ⟨t, i⟩ = table.stamps[i]? := fun i => by rw [stampAt?, ht, Option.bind_some]
  rw [List.pairwise_iff_getElem]
  intro i j hi hj hij
  refine hs.stamps_ascending (t := t) ?_ ?_ hij
  · rw [hstamp, ← Array.getElem?_toList, List.getElem?_eq_getElem hi]
  · rw [hstamp, ← Array.getElem?_toList, List.getElem?_eq_getElem hj]

end Valid

theorem Reachable.consistent (hs : s.Reachable) :
    (∀ table ∈ s.tables,
      (∀ col ∈ table.columns, col.data.kind = col.schema.layout.kind ∧
        col.data.size = table.entities.size * col.schema.layout.width) ∧
      table.stamps.size = table.entities.size) ∧
    (∀ c, (s.holdersOf c).Pairwise (· < ·) ∧
      (∀ t, t ∈ s.holdersOf c ↔ ∃ table, s.tables[t]? = some table ∧ c ∈ table.schemas.map Schema.id) ∧
      (s.holders.contains c = true ↔ ∃ table ∈ s.tables, c ∈ table.schemas.map Schema.id) ∧
      (s.registry.contains c = true ↔ ∃ table ∈ s.tables, c ∈ table.schemas.map Schema.id)) ∧
    ((∀ (name : ArchetypeName) (t : Nat), s.archetypes[name]? = some t ↔
        ∃ table : Table R, s.tables[t]? = some table ∧ table.name = name) ∧
      ∀ t < s.tables.size, ∃! name : ArchetypeName, s.archetypes[name]? = some t) ∧
    (∀ table ∈ s.tables, ∀ col ∈ table.columns,
      ∃ registered, s.registry[col.schema.id]? = some registered ∧ registered.layout = col.schema.layout) ∧
    (∀ e, (s.placementsOf e).Nodup ∧ ∀ t r, ⟨t, r⟩ ∈ s.placementsOf e ↔
      ∃ table : Table R, s.tables[t]? = some table ∧ table.entities[r]? = some e) ∧
    (∀ e c (p q : Placement) (a b : Table R), s.tables[p.table]? = some a → s.tables[q.table]? = some b →
      a.entities[p.row]? = some e → b.entities[q.row]? = some e →
      c ∈ a.schemas.map Schema.id → c ∈ b.schemas.map Schema.id → p = q) ∧
    ((∀ table ∈ s.tables, table.stamps.toList.Pairwise (· < ·)) ∧
      (∀ p q n, s.stampAt? p = some n → s.stampAt? q = some n → p = q) ∧
      ∀ n, n < s.nextStamp ↔ ∃ table ∈ s.tables, n ∈ table.stamps) := by
  have hv := hs.valid
  refine ⟨fun table ht => ⟨fun col hcol => ?_, (hv.valid_of_mem ht).stamps⟩, fun c => ⟨hv.holders_ascending c,
    fun t => hv.mem_holdersOf_iff, hv.hasComponent_iff, ?_⟩, ⟨hv.archetypes, fun t ht => hv.existsUnique_name ht⟩,
    ?_, ?_, ?_, fun table ht => hv.stamps_pairwise ht, fun p q n => hv.stamps_injective, fun n => hv.stamped_iff⟩
  · obtain ⟨hkind, hsize⟩ := (hv.valid_of_mem ht).fits col hcol
    exact ⟨hkind, hsize⟩
  · rw [hv.registry_contains]
    exact hv.hasComponent_iff
  · intro table ht col hcol
    obtain ⟨t, ht⟩ := Array.mem_iff_getElem?.1 ht
    exact hv.layouts ht (List.mem_map_of_mem hcol)
  · intro e
    exact ⟨hv.placements_nodup e, fun t r => (hv.placements e ⟨t, r⟩).trans entityAt?_eq_some_iff⟩
  · intro e c p q a b ha hb hea heb hca hcb
    refine hv.unique (c := c) (entityAt?_eq_some_iff.2 ⟨a, ha, hea⟩) (entityAt?_eq_some_iff.2 ⟨b, hb, heb⟩) ?_ ?_
    · exact stores_iff.2 ⟨a, ha, (hv.tables ha).hasColumn_iff.2 hca⟩
    · exact stores_iff.2 ⟨b, hb, (hv.tables hb).hasColumn_iff.2 hcb⟩

theorem Reachable.consistent_rock : ∃ (rock spot : Bundle Nat) (mass heat : Schema) (v : mass.Value Nat)
    (s : Store Nat Tokens), s = empty.applyAll [.spawn rock, .spawn spot, .attach ⟨0⟩ spot, .spawn rock,
      .write mass [⟨2⟩] [v], .attach ⟨0⟩ spot] ∧ s.Reachable ∧
    (s.apply (.attach ⟨0⟩ spot)).1 = .error (.alreadyHeld ⟨0⟩ "heat") ∧
    s.get mass ⟨2⟩ = .ok (some v) ∧
    (∀ table ∈ s.tables, ∀ col ∈ table.columns, col.data.size = table.entities.size * col.schema.layout.width) ∧
    (∃ table, s.tables[1]? = some table ∧ heat.id ∈ table.schemas.map Schema.id) ∧
    (∃! name : ArchetypeName, s.archetypes[name]? = some 1) ∧
    (∃ table, s.tables[0]? = some table ∧ table.entities[0]? = some ⟨0⟩) ∧
    (∃ table, s.tables[1]? = some table ∧ table.entities[1]? = some ⟨0⟩) ∧
    (∃ table ∈ s.tables, 3 ∈ table.stamps) ∧ ∀ table ∈ s.tables, 4 ∉ table.stamps := by
  let mass : Schema := .scalar "mass" .f64
  let heat : Schema := ⟨"heat", .f64, [2]⟩
  let rock : Bundle Nat := (Bundle.empty "rock").add mass #v[5]
  let spot : Bundle Nat := ((Bundle.empty "spot").add heat #v[1, 2]).add (.scalar "tag" .u64) #v[7]
  let changes : List (Change Nat Tokens) := [.spawn rock, .spawn spot, .attach ⟨0⟩ spot, .spawn rock,
    .write mass [⟨2⟩] [#v[9]], .attach ⟨0⟩ spot]
  let s : Store Nat Tokens := empty.applyAll changes
  have hs : s.Reachable := ⟨changes, rfl⟩
  have hrejected : (s.apply (.attach ⟨0⟩ spot)).1 = .error (.alreadyHeld ⟨0⟩ "heat") := by decide +kernel
  have hmass : s.get mass ⟨2⟩ = .ok (some #v[9]) := by decide +kernel
  have hholder : 1 ∈ s.holdersOf heat.id := by decide +kernel
  have hsize : 1 < s.tables.size := by decide +kernel
  have hfirst : ⟨0, 0⟩ ∈ s.placementsOf ⟨0⟩ := by decide +kernel
  have hsecond : ⟨1, 1⟩ ∈ s.placementsOf ⟨0⟩ := by decide +kernel
  have hnext : s.nextStamp = 4 := by decide +kernel
  obtain ⟨hcolumns, hholders, hnames, _, hplacements, _, _, _, hstamps⟩ := hs.consistent
  have hlast : ∀ table ∈ s.tables, 4 ∉ table.stamps := fun table ht hn => by
    have hlt := (hstamps 4).2 ⟨table, ht, hn⟩
    omega
  exact ⟨rock, spot, mass, heat, _, s, rfl, hs, hrejected, hmass,
    fun table ht col hcol => ((hcolumns table ht).1 col hcol).2, ((hholders _).2.1 1).1 hholder, hnames.2 1 hsize,
    ((hplacements _).2 0 0).1 hfirst, ((hplacements _).2 1 1).1 hsecond, (hstamps 3).1 (by omega), hlast⟩

end ColumnSim.Store
