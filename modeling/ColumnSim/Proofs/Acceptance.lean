import ColumnSim.Proofs.ReadOrder
import ColumnSim.Proofs.SnakeCase

/-! Declarations are kept: what a store has accepted once it accepts again, as long as it is not frozen. -/

namespace ColumnSim

variable {R : Type} {V : AssetKind → Type}

structure Table.Appends (table grown : Table R) (e : EntityId) (values : List (ComponentValue R)) : Prop where
  name : grown.name = table.name
  schemas : grown.schemas = table.schemas
  entities : grown.entities = table.entities.push e
  earlier : ∀ row < table.size, ∀ c, grown.cell? row c = table.cell? row c
  last : ∀ c, grown.cell? table.size c = ComponentValue.cellOf? values c

lemma Table.Valid.appends_push {table : Table R} {values : List (ComponentValue R)} (ht : table.Valid)
    (hv : values.map (·.schema) = table.schemas) (e : EntityId) (stamp : Nat) :
    table.Appends (table.push e stamp values) e values where
  name := rfl
  schemas := push_schemas hv
  entities := rfl
  earlier row hr c := by rw [cell?_push ht hv (Nat.le_of_lt hr), if_neg (Nat.ne_of_lt hr)]
  last c := by rw [cell?_push ht hv (Nat.le_refl _), if_pos rfl]

namespace Store

variable {s u w : Store R V} {b : Bundle R} {e : EntityId} {event : Event R V} {events : List (Event R V)} {t : Nat}

structure Extends (s u : Store R V) : Prop where
  registered : ∀ c schema, s.schema? c = some schema → u.schema? c = some schema
  columns : ∀ name schemas, s.archetypeSchemas? name = some schemas → u.archetypeSchemas? name = some schemas
  archetypes : s.archetypeNames <+: u.archetypeNames

lemma Extends.refl : s.Extends s := ⟨fun _ _ h => h, fun _ _ h => h, List.prefix_rfl⟩

lemma Extends.trans (h : s.Extends u) (hu : u.Extends w) : s.Extends w where
  registered c schema hc := hu.registered c schema (h.registered c schema hc)
  columns name schemas hn := hu.columns name schemas (h.columns name schemas hn)
  archetypes := h.archetypes.trans hu.archetypes

lemma extends_of_outline (h : u.outline = s.outline) : s.Extends u where
  registered c schema hc := by rwa [schema?_of_outline h]
  columns name schemas hn := by rwa [← archetypeSchemas?_outline, h, archetypeSchemas?_outline]
  archetypes := by
    have hnames : s.archetypeNames = u.archetypeNames := by rw [← archetypeNames_outline, ← h, archetypeNames_outline]
    exact hnames ▸ List.prefix_rfl

lemma extends_frame (s : Store R V) (entities : Allocator) (names : Std.TreeMap EntityId String) (frozen : Bool)
    (assets : Assets V) : s.Extends { s with entities, names, frozen, assets } :=
  ⟨fun _ _ h => h, fun _ _ h => h, List.prefix_rfl⟩

lemma archetypeSchemas?_eq_some_iff {name : ArchetypeName} {schemas : List Schema} :
    s.archetypeSchemas? name = some schemas ↔ ∃ (t : Nat) (table : Table R), s.archetypes[name]? = some t ∧
      s.tables[t]? = some table ∧ table.schemas = schemas := by
  simp [archetypeSchemas?, Option.bind_eq_some_iff]

namespace Valid

lemma extends_insert (hs : s.Valid) (h : s.Takes e b) : s.Extends (s.insert e b) where
  registered c schema hc := by rw [hs.schema?_insert_eq h.accepts, hc, Option.some_or]
  columns name schemas hn := by
    rw [hs.archetypeSchemas?_insert h]
    split
    · rename_i hname
      exact congrArg some (h.accepts.columns schemas (hname ▸ hn)).symm
    · exact hn
  archetypes := by
    rw [archetypeNames_eq, archetypeNames_eq, hs.rolls_insert h.accepts, Roll.names_enroll]
    exact List.prefix_append _ _

lemma archetypes_iff_names (hs : s.Valid) {name : ArchetypeName} :
    s.archetypes[name]? = some t ↔ s.archetypeNames[t]? = some name := by
  rw [hs.archetypes_iff, archetypeNames_eq, List.getElem?_map, Option.map_eq_some_iff]

lemma archetypes_of_extends (hs : s.Valid) (hu : u.Valid) (h : s.Extends u) {name : ArchetypeName}
    (ht : s.archetypes[name]? = some t) : u.archetypes[name]? = some t := by
  rw [hs.archetypes_iff_names] at ht
  rw [hu.archetypes_iff_names]
  obtain ⟨later, hlater⟩ := h.archetypes
  rw [← hlater, List.getElem?_append_left (List.getElem?_eq_some_iff.1 ht).1, ht]

lemma accepts_of_columns (hs : s.Valid) (hf : s.frozen = false)
    (h : s.archetypeSchemas? b.name = some b.schemas) : s.Accepts b := by
  obtain ⟨t, table, _, ht, hcolumns⟩ := archetypeSchemas?_eq_some_iff.1 h
  refine ⟨hf, hcolumns ▸ (hs.tables ht).nodup, fun v hv => RegistersAs.agrees ?_, fun schemas hsch => ?_⟩
  · have hm : v.schema ∈ b.schemas := List.mem_map_of_mem hv
    exact hs.layouts ht (hcolumns ▸ hm)
  · rw [h] at hsch
    exact (Option.some.inj hsch).symm

lemma exists_insert (hs : s.Valid) (h : (∃ e, s.spawn b = .ok (e, u)) ∨ ∃ e, s.attach e b = .ok u) :
    ∃ (r : Store R V) (e : EntityId), r.Valid ∧ s.Extends r ∧ r.Takes e b ∧ u = r.insert e b := by
  rcases h with ⟨e, h⟩ | ⟨e, h⟩
  · obtain ⟨hb, rfl, rfl⟩ := spawn_eq_ok_iff.1 h
    exact ⟨_, _, hs.allocate, s.extends_frame _ _ _ _, hs.takes_allocate hb, rfl⟩
  · obtain ⟨ht, rfl⟩ := attach_eq_ok_iff.1 h
    exact ⟨s, e, hs, .refl, ht, rfl⟩

end Valid

lemma Step.extends (h : Step s event u) (hs : s.Valid) : s.Extends u := by
  cases h with
  | spawned h =>
    obtain ⟨hb, rfl, rfl⟩ := spawn_eq_ok_iff.1 h
    exact (s.extends_frame _ _ _ _).trans (hs.allocate.extends_insert (hs.takes_allocate hb))
  | attached h =>
    obtain ⟨ht, rfl⟩ := attach_eq_ok_iff.1 h
    exact hs.extends_insert ht
  | written h => exact extends_of_outline (outline_write h)
  | named => exact s.extends_frame _ _ _ _
  | added => exact s.extends_frame _ _ _ _
  | frozen => exact s.extends_frame _ _ _ _

lemma Run.extends (h : Run s events u) (hs : s.Valid) : s.Extends u := by
  induction h with
  | nil => exact .refl
  | cons h _ ih => exact (h.extends hs).trans (ih (h.valid hs))

section Unfrozen

lemma Step.unfrozen (h : Step s event u) (hne : event ≠ .frozen) : u.frozen = s.frozen := by
  cases h with
  | spawned h =>
    obtain ⟨_, _, rfl⟩ := spawn_eq_ok_iff.1 h
    exact frozen_insert _ _ _
  | attached h =>
    obtain ⟨_, rfl⟩ := attach_eq_ok_iff.1 h
    exact frozen_insert _ _ _
  | written h =>
    obtain ⟨_, rfl⟩ := eq_of_outline (outline_write h)
    rfl
  | named => rfl
  | added => rfl
  | frozen => exact absurd rfl hne

lemma Run.unfrozen (h : Run s events u) (hne : .frozen ∉ events) : u.frozen = s.frozen := by
  induction h with
  | nil => rfl
  | cons h _ ih =>
    have hrest := ih fun hm => hne (List.mem_cons_of_mem _ hm)
    exact hrest.trans (h.unfrozen fun heq => hne (heq ▸ List.mem_cons_self ..))

lemma frozen_not_mem_batchEvents (s : Store R V) (bs : List (Bundle R)) : .frozen ∉ s.batchEvents bs := by
  induction bs generalizing s with
  | nil => exact List.not_mem_nil
  | cons b bs ih =>
    rw [batchEvents]
    split
    · exact List.not_mem_nil
    · simp [ih]

lemma eq_freeze_of_mem_events {change : Change R V} (h : .frozen ∈ s.events change) : change = .freeze := by
  cases change with
  | freeze => rfl
  | spawnBatch bs => exact (s.frozen_not_mem_batchEvents bs h).elim
  | insertAsset kind content => simp [events] at h
  | spawn b => exact absurd h (by simp only [events]; split <;> simp)
  | spawnNamed b name => exact absurd h (by simp only [events]; split <;> simp)
  | attach e b => exact absurd h (by simp only [events]; split <;> simp)
  | write schema es vs => exact absurd h (by simp only [events]; split <;> simp)

lemma frozen_applyAll {changes : List (Change R V)} (h : .freeze ∉ changes) :
    (s.applyAll changes).frozen = s.frozen := by
  refine (s.applyAll_run changes).unfrozen fun hm => ?_
  induction changes generalizing s with
  | nil => cases hm
  | cons change changes ih =>
    rcases List.mem_append.1 hm with hm | hm
    · exact h (eq_freeze_of_mem_events hm ▸ List.mem_cons_self ..)
    · exact ih (fun hf => h (List.mem_cons_of_mem _ hf)) hm

end Unfrozen

lemma insert_known (ht : s.archetypes[b.name]? = some t) : s.insert e b = s.pushRow t e b.values := by
  simp only [insert, tableFor, ht]

lemma Valid.spawn_known (hs : s.Valid) (hf : s.frozen = false) (ht : s.archetypes[b.name]? = some t)
    (h : s.archetypeSchemas? b.name = some b.schemas) : ∃ e after table grown, s.spawn b = .ok (e, after) ∧
      after.archetypeNames = s.archetypeNames ∧ s.tables[t]? = some table ∧
      (∀ i : Nat, after.tables[i]? = if i = t then some grown else s.tables[i]?) ∧ table.Appends grown e b.values := by
  have hb := hs.accepts_of_columns hf h
  have hspawn := spawn_eq_ok_iff.2 ⟨hb, rfl, rfl⟩
  obtain ⟨table, htable, hname⟩ := (hs.archetypes b.name t).1 ht
  have hcolumns : b.schemas = table.schemas := by
    simpa [archetypeSchemas?, ht, htable, eq_comm] using h
  have hnames := hs.archetypes_iff_names.1 ht
  rw [archetypeNames_eq] at hnames
  refine ⟨_, _, table, table.push s.entities.allocate.1 s.nextStamp b.values, hspawn, ?_, htable, fun i => ?_,
    (hs.tables htable).appends_push hcolumns _ _⟩
  · rw [archetypeNames_eq, hs.allocate.rolls_insert hb.allocate, Roll.names_enroll, archetypeNames_eq]
    exact (if_pos (List.mem_of_getElem? hnames)).symm ▸ List.append_nil _
  · rw [insert_known (s := { s with entities := s.entities.allocate.2 }) ht]
    exact tables_pushRow htable i

lemma Valid.spawn_again (hs : s.Valid) (h : (∃ e, s.spawn b = .ok (e, u)) ∨ ∃ e, s.attach e b = .ok u) :
    ∃ t, u.archetypes[b.name]? = some t ∧ ∀ (changes : List (Change R V)) (again : Bundle R), .freeze ∉ changes →
      again.name = b.name → again.schemas = b.schemas →
      ∃ e after table grown, (u.applyAll changes).spawn again = .ok (e, after) ∧
        after.archetypeNames = (u.applyAll changes).archetypeNames ∧
        (u.applyAll changes).tables[t]? = some table ∧
        (∀ i : Nat, after.tables[i]? = if i = t then some grown else (u.applyAll changes).tables[i]?) ∧
        table.Appends grown e again.values := by
  obtain ⟨r, e, hr, _, htakes, rfl⟩ := hs.exists_insert h
  have hu := hr.insert htakes
  have hcolumns : (r.insert e b).archetypeSchemas? b.name = some b.schemas := by
    rw [hr.archetypeSchemas?_insert htakes, if_pos rfl]
  obtain ⟨t, _, ht, _⟩ := archetypeSchemas?_eq_some_iff.1 hcolumns
  refine ⟨t, ht, fun changes again hf hname hschemas => ?_⟩
  -- What the insertion declared stands after all further changes.
  have hrun := (r.insert e b).applyAll_run changes
  have hlater := hrun.extends hu
  have hw := hrun.valid hu
  refine hw.spawn_known ?_ (hname ▸ hu.archetypes_of_extends hw hlater ht) ?_
  · rw [frozen_applyAll hf, frozen_insert]
    exact htakes.accepts.unfrozen
  · rw [hname, hschemas]
    exact hlater.columns _ _ hcolumns

theorem Reachable.accepts_again {raw : String} {values : List (ComponentValue R)} (hs : s.Reachable)
    (h : (∃ e, s.spawn ⟨.ofRaw raw, values⟩ = .ok (e, u)) ∨ ∃ e, s.attach e ⟨.ofRaw raw, values⟩ = .ok u) :
    s.Extends u ∧
    (∀ changes more : List (Change R V), (u.applyAll changes).Extends (u.applyAll (changes ++ more))) ∧
    ∃ t, u.archetypes[ArchetypeName.ofRaw raw]? = some t ∧
      ∀ (changes : List (Change R V)) (again : String) (others : List (ComponentValue R)), .freeze ∉ changes →
        ArchetypeName.ofRaw again = .ofRaw raw ∨ again = (ArchetypeName.ofRaw raw).text →
        others.map (·.schema) = values.map (·.schema) →
        ∃ e after table grown, (u.applyAll changes).spawn ⟨.ofRaw again, others⟩ = .ok (e, after) ∧
          after.archetypeNames = (u.applyAll changes).archetypeNames ∧
          (u.applyAll changes).tables[t]? = some table ∧
          (∀ i : Nat, after.tables[i]? = if i = t then some grown else (u.applyAll changes).tables[i]?) ∧
          table.Appends grown e others := by
  obtain ⟨r, e, hr, hext, htakes, hinsert⟩ := hs.valid.exists_insert h
  have hu : u.Valid := hinsert ▸ hr.insert htakes
  obtain ⟨t, ht, hagain⟩ := hs.valid.spawn_again h
  refine ⟨hinsert ▸ hext.trans (hr.extends_insert htakes), fun changes more => ?_, t, ht, ?_⟩
  · rw [applyAll, applyAll, List.foldl_append]
    exact (applyAll_run _ more).extends ((applyAll_run u changes).valid hu)
  · intro changes again others hf hname hvalues
    have hraw : ArchetypeName.ofRaw again = .ofRaw raw := by
      rcases hname with hname | rfl
      · exact hname
      · exact ArchetypeName.ofRaw_text raw
    exact hagain changes ⟨.ofRaw again, others⟩ hf hraw hvalues

theorem Reachable.accepts_again_rock : ∃ (u after : Store Nat Tokens) (changes : List (Change Nat Tokens))
    (table grown : Table Nat),
    (empty : Store Nat Tokens).spawn ⟨.ofRaw "sim::Rock<f64>", [⟨.scalar "mass" .f64, #v[5]⟩]⟩ = .ok (⟨0⟩, u) ∧
    .freeze ∉ changes ∧ (u.applyAll changes).archetypeNames = [⟨"rock"⟩, ⟨"ember"⟩] ∧
    (u.applyAll changes).spawn ⟨.ofRaw "rock", [⟨.scalar "mass" .f64, #v[7]⟩]⟩ = .ok (⟨2⟩, after) ∧
    after.archetypeNames = [⟨"rock"⟩, ⟨"ember"⟩] ∧ table.entities = #[⟨0⟩] ∧ grown.entities = #[⟨0⟩, ⟨2⟩] ∧
    table.Appends grown ⟨2⟩ [⟨.scalar "mass" .f64, #v[7]⟩] := by
  let mass : Schema := .scalar "mass" .f64
  let rock (n : Nat) : Bundle Nat := ⟨.ofRaw "sim::Rock<f64>", [⟨mass, #v[n]⟩]⟩
  let changes : List (Change Nat Tokens) :=
    [.spawn ((Bundle.empty "Pebble").add (.scalar "mass" .u64) #v[1]), .attach ⟨0⟩ (rock 6),
      .spawn ((Bundle.empty "Ember").add mass #v[1])]
  let u : Store Nat Tokens := empty.applyAll [.spawn (rock 5)]
  have hspawn : (empty : Store Nat Tokens).spawn (rock 5) = .ok (⟨0⟩, u) := rfl
  have hf : .freeze ∉ changes := by simp [changes]
  have hnames : (u.applyAll changes).archetypeNames = [⟨"rock"⟩, ⟨"ember"⟩] := by decide +kernel
  have htable : ((u.applyAll changes).tables[0]?).map (·.entities) = some #[⟨0⟩] := by decide +kernel
  have hid : ((u.applyAll changes).spawn ⟨.ofRaw "rock", [⟨mass, #v[7]⟩]⟩).map (·.1) = .ok ⟨2⟩ := by decide +kernel
  obtain ⟨_, _, t, ht, h⟩ := Reachable.accepts_again (s := empty) ⟨[], rfl⟩ (.inl ⟨⟨0⟩, hspawn⟩)
  have hzero : u.archetypes[ArchetypeName.ofRaw "sim::Rock<f64>"]? = some 0 := by decide +kernel
  rw [ht] at hzero
  cases hzero
  obtain ⟨e, after, table, grown, hagain, hkept, hold, _, happends⟩ :=
    h changes "rock" [⟨mass, #v[7]⟩] hf (.inr (by decide +kernel)) rfl
  rw [hagain] at hid
  cases hid
  rw [hold] at htable
  have hentities : table.entities = #[⟨0⟩] := Option.some.inj htable
  exact ⟨u, after, changes, table, grown, hspawn, hf, hnames, hagain, hkept.trans hnames, hentities,
    happends.entities.trans (by rw [hentities]; rfl), happends⟩

end Store

end ColumnSim
