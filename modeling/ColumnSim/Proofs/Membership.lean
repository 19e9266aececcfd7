import ColumnSim.Proofs.Acceptance

/-! The rows of an archetype are its entities, in the order in which a history puts them there. An entity stands there
once, unless the archetype has no components that it could be told to hold already. -/

namespace ColumnSim

variable {R : Type} {V : AssetKind → Type} {e : EntityId} {name : ArchetypeName}

namespace Event

def member? : Event R V → Option EntityId
  | .spawned e _ => some e
  | .attached e _ => some e
  | _ => none

def membersIn (events : List (Event R V)) (name : ArchetypeName) : List EntityId :=
  (events.filter fun event => event.archetype? = some name).filterMap member?

lemma membersIn_append (front back : List (Event R V)) (name : ArchetypeName) :
    membersIn (front ++ back) name = membersIn front name ++ membersIn back name := by
  simp [membersIn]

lemma membersIn_singleton {event : Event R V} {b : Bundle R} (ha : event.archetype? = some b.name)
    (hm : event.member? = some e) : membersIn [event] name = if b.name = name then [e] else [] := by
  by_cases hname : b.name = name <;> simp [membersIn, ha, hm, hname]

end Event

namespace Roll

def entitiesIn (rolls : List Roll) (name : ArchetypeName) : List EntityId :=
  ((rolls.find? fun roll => roll.name = name).map Roll.entities).getD []

lemma entitiesIn_enroll {n : ArchetypeName} {schemas : List Schema} {rolls : List Roll} :
    entitiesIn (enroll n schemas e rolls) name = entitiesIn rolls name ++ if n = name then [e] else [] := by
  rw [entitiesIn, entitiesIn, find?_enroll]
  split
  · cases rolls.find? fun roll => roll.name = name <;> rfl
  · exact (List.append_nil _).symm

end Roll

namespace Table

variable {table : Table R}

lemma Valid.rowOf?_iff (ht : table.Valid) :
    (∀ e row, table.rowOf? e = some row ↔ table.entities[row]? = some e) ↔ table.entities.toList.Nodup := by
  simp only [List.nodup_iff_getElem?_ne_getElem?, Array.getElem?_toList]
  constructor
  · intro h i j hij hj he
    have hlast := Array.getElem?_eq_getElem hj
    have hi := (h _ i).2 (he.trans hlast)
    rw [(h _ j).2 hlast] at hi
    exact Nat.ne_of_gt hij (Option.some.inj hi)
  · intro h e row
    rw [rowOf?, ht.rows]
    refine ⟨And.left, fun hrow => ⟨hrow, fun other ho => Nat.le_of_not_lt fun hlt => ?_⟩⟩
    exact h row other hlt (Array.getElem?_eq_some_iff.1 ho).1 (hrow.trans ho.symm)

end Table

namespace Store

variable {s u : Store R V} {event : Event R V} {events : List (Event R V)} {t : Nat} {table : Table R}

section History

lemma Step.members (h : Step s event u) (hs : s.Valid) (name : ArchetypeName) :
    Roll.entitiesIn u.rolls name = Roll.entitiesIn s.rolls name ++ Event.membersIn [event] name := by
  cases h with
  | spawned h =>
    obtain ⟨hb, rfl, rfl⟩ := spawn_eq_ok_iff.1 h
    rw [hs.allocate.rolls_insert hb.allocate, Roll.entitiesIn_enroll, Event.membersIn_singleton rfl rfl]
    rfl
  | attached h =>
    obtain ⟨ht, rfl⟩ := attach_eq_ok_iff.1 h
    rw [hs.rolls_insert ht.accepts, Roll.entitiesIn_enroll, Event.membersIn_singleton rfl rfl]
  | written h =>
    rw [rolls_of_outline (outline_write h)]
    exact (List.append_nil _).symm
  | named => exact (List.append_nil _).symm
  | added => exact (List.append_nil _).symm
  | frozen => exact (List.append_nil _).symm

lemma Run.members (h : Run s events u) (hs : s.Valid) (name : ArchetypeName) :
    Roll.entitiesIn u.rolls name = Roll.entitiesIn s.rolls name ++ Event.membersIn events name := by
  induction h with
  | nil => exact (List.append_nil _).symm
  | cons h _ ih =>
    rw [ih (h.valid hs), h.members hs, List.append_assoc, ← Event.membersIn_append, List.singleton_append]

end History

namespace Valid

lemma entities_eq (hs : s.Valid) (ht : s.tables[t]? = some table) :
    table.entities.toList = Roll.entitiesIn s.rolls table.name := by
  have hroll : s.rolls[t]? = some table.roll := by rw [rolls_getElem?, ht, Option.map_some]
  have hfound := (find?_eq_some_iff_mem hs.names_nodup (b := table.name)).2 ⟨List.mem_of_getElem? hroll, rfl⟩
  rw [Roll.entitiesIn, hfound]
  rfl

lemma nodup_entities (hs : s.Valid) (ht : s.tables[t]? = some table) (hne : table.schemas ≠ []) :
    table.entities.toList.Nodup := by
  obtain ⟨schema, hm⟩ := List.exists_mem_of_ne_nil _ hne
  have hstores : ∀ row, s.stores schema.id ⟨t, row⟩ = true := fun row =>
    stores_iff.2 ⟨table, ht, (hs.tables ht).hasColumn_iff.2 (List.mem_map_of_mem hm)⟩
  have hentity : ∀ {row : Nat} {e}, table.entities[row]? = some e → s.entityAt? ⟨t, row⟩ = some e := fun h =>
    entityAt?_eq_some_iff.2 ⟨table, ht, h⟩
  refine (hs.tables ht).rowOf?_iff.1 fun e row => ?_
  rw [Table.rowOf?, (hs.tables ht).rows]
  refine ⟨And.left, fun hrow => ⟨hrow, fun other ho => ?_⟩⟩
  -- Both rows would give the entity the same component.
  have hsame := hs.unique (hentity ho) (hentity hrow) (hstores other) (hstores row)
  exact Nat.le_of_eq (congrArg Placement.row hsame)

lemma attach_empty (hs : s.Valid) (hf : s.frozen = false) (ht : s.tables[t]? = some table) (hnil : table.schemas = [])
    (he : s.entities.contains e = true) : ∃ u grown, s.attach e ⟨table.name, []⟩ = .ok u ∧
      u.tables[t]? = some grown ∧ table.Appends grown e [] ∧ grown.rowOf? e = some table.size := by
  have hfound : s.archetypes[table.name]? = some t := (hs.archetypes _ _).2 ⟨table, ht, rfl⟩
  have haccepts : s.Accepts ⟨table.name, []⟩ :=
    hs.accepts_of_columns hf (archetypeSchemas?_eq_some_iff.2 ⟨t, table, hfound, ht, hnil⟩)
  -- That the entity is there already could only show in a component that it holds, and there is none.
  refine ⟨_, _, attach_eq_ok_iff.2 ⟨⟨haccepts, he, fun v hv => by cases hv⟩, rfl⟩, ?_,
    (hs.tables ht).appends_push (by rw [hnil]; rfl) e s.nextStamp, Std.TreeMap.getElem?_insert_self⟩
  rw [insert_known hfound, tables_pushRow ht, if_pos rfl]

end Valid

/-- The rows of an archetype are the entities that the history puts there. The index gives the last row of each, which
is the only one if there are components; to an archetype without components an entity is attached as often as asked. -/
theorem rows_of_history {changes : List (Change R V)} (hs : s = empty.applyAll changes)
    (ht : s.tables[t]? = some table) :
    table.entities.toList = Event.membersIn (empty.log changes) table.name ∧
    (∀ e row, table.rowOf? e = some row ↔
      table.entities[row]? = some e ∧ ∀ other, table.entities[other]? = some e → other ≤ row) ∧
    ((∀ e row, table.rowOf? e = some row ↔ table.entities[row]? = some e) ↔ table.entities.toList.Nodup) ∧
    (table.schemas ≠ [] → table.entities.toList.Nodup) ∧
    (table.schemas = [] → s.frozen = false → ∀ e, s.entities.contains e = true → ∃ u grown,
      s.attach e ⟨table.name, []⟩ = .ok u ∧ u.tables[t]? = some grown ∧ table.Appends grown e [] ∧
        grown.rowOf? e = some table.size) := by
  have hv : s.Valid := Reachable.valid ⟨changes, hs⟩
  have hvalid := hv.tables ht
  have hmembers : Roll.entitiesIn s.rolls table.name = Event.membersIn (empty.log changes) table.name := by
    rw [hs]
    exact (applyAll_run empty changes).members empty_valid table.name
  exact ⟨(hv.entities_eq ht).trans hmembers, hvalid.rows, hvalid.rowOf?_iff, hv.nodup_entities ht,
    fun hnil hf e he => hv.attach_empty hf ht hnil he⟩

theorem rows_of_history_rock : ∃ (rock : Bundle Nat) (s u : Store Nat Tokens) (rocks markers grown : Table Nat),
    s = empty.applyAll [.spawn rock, .attach ⟨0⟩ (.empty "marker"), .attach ⟨0⟩ rock, .spawn rock] ∧
    s.tables[0]? = some rocks ∧ s.tables[1]? = some markers ∧ rocks.entities.toList = [⟨0⟩, ⟨1⟩] ∧
    rocks.entities.toList.Nodup ∧ (∀ e row, rocks.rowOf? e = some row ↔ rocks.entities[row]? = some e) ∧
    s.attach ⟨0⟩ (.empty "marker") = .ok u ∧ u.tables[1]? = some grown ∧ grown.entities = #[⟨0⟩, ⟨0⟩] := by
  let rock : Bundle Nat := (Bundle.empty "rock").add (.scalar "mass" .f64) #v[5]
  let changes : List (Change Nat Tokens) := [.spawn rock, .attach ⟨0⟩ (.empty "marker"), .attach ⟨0⟩ rock, .spawn rock]
  let s : Store Nat Tokens := empty.applyAll changes
  have hs : s = empty.applyAll changes := rfl
  have hf : s.frozen = false := by decide +kernel
  have hspawned : s.entities.contains ⟨0⟩ = true := by decide +kernel
  have hrock : (s.tables[0]?).map (fun table => (table.name, table.schemas)) =
      some (⟨"rock"⟩, [.scalar "mass" .f64]) := by decide +kernel
  have hmarker : (s.tables[1]?).map (fun table => (table.name, table.schemas, table.entities)) =
      some (⟨"marker"⟩, [], #[⟨0⟩]) := by decide +kernel
  have hmembers : Event.membersIn (empty.log changes) ⟨"rock"⟩ = [⟨0⟩, ⟨1⟩] := by decide +kernel
  clear_value s
  obtain ⟨rocks, hrocks, hr⟩ := Option.map_eq_some_iff.1 hrock
  obtain ⟨markers, hmarkers, hm⟩ := Option.map_eq_some_iff.1 hmarker
  obtain ⟨hname, hschemas⟩ := Prod.mk.inj hr
  obtain ⟨hmname, hm⟩ := Prod.mk.inj hm
  obtain ⟨hnil, hentities⟩ := Prod.mk.inj hm
  obtain ⟨hrows, _, hindex, hnodup, _⟩ := rows_of_history hs hrocks
  obtain ⟨_, _, _, _, hagain⟩ := rows_of_history hs hmarkers
  have hnodup := hnodup (by simp [hschemas])
  obtain ⟨u, grown, hu, hgrown, happends, _⟩ := hagain hnil hf ⟨0⟩ hspawned
  rw [hname, hmembers] at hrows
  rw [hmname] at hu
  exact ⟨rock, s, u, rocks, markers, grown, hs, hrocks, hmarkers, hrows, hnodup, hindex.2 hnodup, hu, hgrown,
    by rw [happends.entities, hentities]; rfl⟩

theorem rows_of_history_twice : ∃ (s : Store Nat Tokens) (table : Table Nat),
    s = empty.applyAll [.spawn (.empty "marker"), .attach ⟨0⟩ (.empty "marker")] ∧ s.tables[0]? = some table ∧
    table.entities = #[⟨0⟩, ⟨0⟩] ∧ table.rowOf? ⟨0⟩ = some 1 ∧ ¬table.entities.toList.Nodup ∧
    ¬∀ e row, table.rowOf? e = some row ↔ table.entities[row]? = some e := by
  refine ⟨_, _, rfl, rfl, rfl, rfl, by decide +kernel, fun h => ?_⟩
  have hzero := (h ⟨0⟩ 0).2 rfl
  exact absurd hzero (by decide +kernel)

end Store

end ColumnSim
