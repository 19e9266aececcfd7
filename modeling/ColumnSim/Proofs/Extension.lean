import ColumnSim.Proofs.Holdings

namespace ColumnSim

variable {R : Type} {V : AssetKind → Type}

/-- A table without its values. The entities stand in the order in which they were given a row. -/
structure Roll where
  name : ArchetypeName
  schemas : List Schema
  entities : List EntityId

namespace Roll

variable {name n : ArchetypeName} {schemas : List Schema} {e : EntityId} {rolls : List Roll} {roll : Roll}

def push (roll : Roll) (e : EntityId) : Roll := { roll with entities := roll.entities ++ [e] }

def enroll (name : ArchetypeName) (schemas : List Schema) (e : EntityId) : List Roll → List Roll
  | [] => [⟨name, schemas, [e]⟩]
  | roll :: rolls => if roll.name = name then roll.push e :: rolls else roll :: enroll name schemas e rolls

lemma enroll_eq_modify {t : Nat} (ht : rolls[t]? = some roll) (hname : roll.name = name)
    (hfirst : ∀ i < t, ∀ other, rolls[i]? = some other → other.name ≠ name) :
    enroll name schemas e rolls = rolls.modify t (·.push e) := by
  induction rolls generalizing t with
  | nil => simp at ht
  | cons head rolls ih =>
    cases t with
    | zero => simp_all [enroll]
    | succ t =>
      have hhead : head.name ≠ name := hfirst 0 (Nat.succ_pos t) head rfl
      rw [enroll, if_neg hhead, List.modify_succ_cons, ih ht fun i hi => hfirst (i + 1) (Nat.succ_lt_succ hi)]

lemma enroll_open (h : ∀ roll ∈ rolls, roll.name ≠ name) :
    enroll name schemas e (rolls ++ [⟨name, schemas, []⟩]) = enroll name schemas e rolls := by
  induction rolls with
  | nil => simp [enroll, push]
  | cons head rolls ih =>
    obtain ⟨hhead, hrolls⟩ := List.forall_mem_cons.1 h
    simp [enroll, hhead, ih hrolls]

lemma find?_enroll : (enroll name schemas e rolls).find? (fun roll => roll.name = n) =
    if name = n then some (((rolls.find? fun roll => roll.name = n).getD ⟨name, schemas, []⟩).push e)
    else rolls.find? fun roll => roll.name = n := by
  induction rolls with
  | nil => by_cases h : name = n <;> simp [enroll, push, h]
  | cons head rolls ih =>
    rw [enroll]
    split
    · by_cases h : name = n <;> simp_all [push]
    · by_cases h : name = n <;> by_cases hn : head.name = n <;> simp_all

end Roll

namespace Bundle

structure Compatible (a b : Bundle R) : Prop where
  columns : a.name = b.name → a.schemas = b.schemas
  layouts : ∀ x ∈ a.schemas, ∀ y ∈ b.schemas, x.id = y.id → x.layout = y.layout

lemma Compatible.symm {a b : Bundle R} (h : a.Compatible b) : b.Compatible a :=
  ⟨fun hn => (h.columns hn.symm).symm, fun y hy x hx hid => (h.layouts x hx y hy hid.symm).symm⟩

end Bundle

namespace Table

def roll (t : Table R) : Roll := ⟨t.name, t.schemas, t.entities.toList⟩

lemma roll_push {t : Table R} {e : EntityId} {stamp : Nat} {values : List (ComponentValue R)}
    (hv : values.map (·.schema) = t.schemas) : (t.push e stamp values).roll = t.roll.push e := by
  rw [roll, push_schemas hv]
  simp only [push, roll, Roll.push, Array.toList_push]

end Table

namespace Store

variable {s u : Store R V} {a b : Bundle R} {e f : EntityId} {c : ComponentId} {t : Nat} {name : ArchetypeName}

def rolls (s : Store R V) : List Roll := s.tables.toList.map Table.roll

lemma rolls_getElem? (s : Store R V) (t : Nat) : s.rolls[t]? = (s.tables[t]?).map Table.roll := by
  simp [rolls]

lemma archetypeNames_eq (s : Store R V) : s.archetypeNames = s.rolls.map Roll.name := by
  simp [archetypeNames, rolls, Table.roll]

lemma rolls_of_outline (h : u.outline = s.outline) : u.rolls = s.rolls := by
  have hout : ∀ s : Store R V, s.outline.rolls = s.rolls := fun s => by
    simp [rolls, Table.roll, outline, Table.outline, Table.schemas, Column.empty, Function.comp_def]
  rw [← hout u, h, hout s]

section Insert

lemma rolls_pushRow {table : Table R} {values : List (ComponentValue R)} (ht : s.tables[t]? = some table)
    (hv : values.map (·.schema) = table.schemas) :
    (s.pushRow t e values).rolls = s.rolls.modify t (·.push e) := by
  apply List.ext_getElem?
  intro i
  rw [rolls_getElem?, tables_pushRow ht, List.getElem?_modify, rolls_getElem?]
  by_cases hi : i = t
  · subst hi
    simp [ht, Table.roll_push hv]
  · simp [hi, Ne.symm hi]

lemma rolls_addTable {schemas : List Schema} :
    (s.addTable name schemas).rolls = s.rolls ++ [⟨name, schemas, []⟩] := by
  have hopen : (Table.empty name schemas : Table R).roll = ⟨name, schemas, []⟩ := by
    rw [Table.roll, Table.schemas_empty]
    rfl
  simp [rolls, addTable, hopen]

lemma archetypes_tableFor (h : s.tableFor b = (t, u)) : u.archetypes[b.name]? = some t := by
  obtain ⟨ht, rfl⟩ | ⟨_, rfl, rfl⟩ := tableFor_cases h
  · exact ht
  · exact Std.TreeMap.getElem?_insert_self

namespace Valid

lemma archetypes_iff (hs : s.Valid) :
    s.archetypes[name]? = some t ↔ ∃ roll, s.rolls[t]? = some roll ∧ roll.name = name := by
  rw [hs.archetypes, rolls_getElem?]
  cases s.tables[t]? <;> simp [Table.roll]

lemma names_nodup (hs : s.Valid) : (s.rolls.map Roll.name).Nodup := by
  refine List.nodup_iff_getElem?_ne_getElem?.2 fun i j hij hj he => ?_
  have hname : ∀ {i : Nat} {name}, (s.rolls.map Roll.name)[i]? = some name → s.archetypes[name]? = some i := by
    intro i name hi
    rw [List.getElem?_map] at hi
    exact hs.archetypes_iff.2 (Option.map_eq_some_iff.1 hi)
  have hlast := List.getElem?_eq_getElem hj
  have hfirst := hname (he.trans hlast)
  rw [hname hlast] at hfirst
  exact Nat.ne_of_gt hij (Option.some.inj hfirst)

lemma archetypeSchemas?_eq (hs : s.Valid) (name : ArchetypeName) :
    s.archetypeSchemas? name = (s.rolls.find? fun roll => roll.name = name).map Roll.schemas := by
  apply Option.ext
  intro schemas
  simp only [archetypeSchemas?, Option.bind_eq_bind, Option.bind_eq_some_iff, Option.map_eq_some_iff,
    find?_eq_some_iff_mem hs.names_nodup, hs.archetypes, List.mem_iff_getElem?, rolls_getElem?]
  constructor
  · rintro ⟨t, ⟨table, ht, hname⟩, other, ho, hsch⟩
    rw [ht] at ho
    cases ho
    exact ⟨table.roll, ⟨⟨t, table, ht, rfl⟩, hname⟩, Option.some.inj hsch⟩
  · rintro ⟨_, ⟨⟨t, table, ht, rfl⟩, hname⟩, hsch⟩
    exact ⟨t, ⟨table, ht, hname⟩, table, ht, congrArg some hsch⟩

lemma enroll_tableFor (hs : s.Valid) (h : s.tableFor b = (t, u)) :
    Roll.enroll b.name b.schemas e u.rolls = Roll.enroll b.name b.schemas e s.rolls := by
  obtain ⟨_, rfl⟩ | ⟨hnone, _, rfl⟩ := tableFor_cases h
  · rfl
  · rw [rolls_addTable]
    apply Roll.enroll_open
    intro roll hm hname
    obtain ⟨i, hi⟩ := List.mem_iff_getElem?.1 hm
    have hfound := hs.archetypes_iff.2 ⟨roll, hi, hname⟩
    rw [hnone] at hfound
    cases hfound

lemma rolls_insert (hs : s.Valid) (hb : s.Accepts b) :
    (s.insert e b).rolls = Roll.enroll b.name b.schemas e s.rolls := by
  obtain ⟨t, u, table, htu, hp⟩ := hs.tableFor hb
  have hindex := archetypes_tableFor htu
  obtain ⟨roll, hroll, hname⟩ := hp.valid.archetypes_iff.1 hindex
  rw [Store.insert, htu, rolls_pushRow hp.found hp.schemas.symm, ← hs.enroll_tableFor htu]
  refine (Roll.enroll_eq_modify hroll hname fun i hi other ho hother => ?_).symm
  have hfirst := hp.valid.archetypes_iff.2 ⟨other, ho, hother⟩
  rw [hindex] at hfirst
  exact Nat.ne_of_gt hi (Option.some.inj hfirst)

lemma archetypeSchemas?_insert (hs : s.Valid) (h : s.Takes e b) (name : ArchetypeName) :
    (s.insert e b).archetypeSchemas? name = if b.name = name then some b.schemas else s.archetypeSchemas? name := by
  rw [(hs.insert h).archetypeSchemas?_eq, hs.rolls_insert h.accepts, Roll.find?_enroll, hs.archetypeSchemas?_eq]
  split
  · rename_i hname
    have hcolumns := h.accepts.columns
    rw [hs.archetypeSchemas?_eq, hname] at hcolumns
    cases hfound : s.rolls.find? fun roll => roll.name = name with
    | none => rfl
    | some roll => exact congrArg some (hcolumns roll.schemas (by rw [hfound]; rfl))
  · rfl

lemma schema?_insert_eq (hs : s.Valid) (hb : s.Accepts b) :
    (s.insert e b).schema? c = (s.schema? c).or (b.schemas.find? fun schema => schema.id = c) := by
  have hpush : (s.insert e b).schema? c = (s.tableFor b).2.schema? c := rfl
  rw [hpush, Store.tableFor]
  cases ha : s.archetypes[b.name]? with
  | none => exact schema?_addTable
  | some t =>
    -- The columns of an archetype were registered together with it.
    obtain ⟨table, ht, _⟩ := (hs.archetypes b.name t).1 ha
    have hsch := hb.columns table.schemas (by simp [archetypeSchemas?, ha, ht])
    cases hfound : b.schemas.find? fun schema => schema.id = c with
    | none => simp
    | some schema =>
      obtain ⟨registered, hr, _⟩ := hs.layouts ht (hsch ▸ List.mem_of_find?_eq_some hfound)
      have hid : schema.id = c := by simpa using List.find?_some hfound
      rw [← hid, hr, Option.some_or]

end Valid

end Insert

section Events

variable {event : Event R V} {registered : Schema}

lemma Step.schema? (h : Step s event u) (hs : s.Valid) (hc : s.schema? c = some registered) :
    u.schema? c = some registered := by
  cases h with
  | spawned h =>
    obtain ⟨hb, rfl, rfl⟩ := spawn_eq_ok_iff.1 h
    rw [hs.allocate.schema?_insert_eq hb.allocate]
    exact Option.or_eq_some_iff.2 (.inl hc)
  | attached h =>
    obtain ⟨ht, rfl⟩ := attach_eq_ok_iff.1 h
    rw [hs.schema?_insert_eq ht.accepts, hc, Option.some_or]
  | written h => rwa [schema?_of_outline (outline_write h)]
  | named => exact hc
  | added => exact hc
  | frozen => exact hc

lemma Run.schema? {events : List (Event R V)} (h : Run s events u) (hs : s.Valid) (hc : s.schema? c = some registered) :
    u.schema? c = some registered := by
  induction h with
  | nil => exact hc
  | cons h _ ih => exact ih (h.valid hs) (h.schema? hs hc)

end Events

section Accepts

lemma frozen_insert (s : Store R V) (e : EntityId) (b : Bundle R) : (s.insert e b).frozen = s.frozen := by
  rw [insert, tableFor]
  cases s.archetypes[b.name]? <;> rfl

lemma Accepts.agrees_schema (hb : s.Accepts b) {schema : Schema} (hm : schema ∈ b.schemas) : s.Agrees schema := by
  obtain ⟨v, hv, rfl⟩ := List.mem_map.1 hm
  exact hb.agrees v hv

lemma Valid.agrees_insert (hs : s.Valid) (ha : s.Accepts a) {schema : Schema} :
    (s.insert e a).Agrees schema ↔
      s.Agrees schema ∧ ∀ x ∈ a.schemas, x.id = schema.id → x.layout = schema.layout := by
  simp only [Agrees, hs.schema?_insert_eq ha]
  cases hr : s.schema? schema.id with
  | none => simp [find?_eq_some_iff_mem ha.distinct]
  | some registered =>
    simp only [Option.some_or, Option.some.injEq, forall_eq', iff_self_and]
    intro hl x hx hid
    exact (ha.agrees_schema hx registered (hid ▸ hr)).symm.trans hl

lemma Valid.accepts_insert (hs : s.Valid) (h : s.Takes e a) :
    (s.insert e a).Accepts b ↔ s.Accepts b ∧ a.Compatible b := by
  have hagrees : (∀ v ∈ b.values, (s.insert e a).Agrees v.schema) ↔ (∀ v ∈ b.values, s.Agrees v.schema) ∧
      ∀ x ∈ a.schemas, ∀ y ∈ b.schemas, x.id = y.id → x.layout = y.layout := by
    simp only [hs.agrees_insert h.accepts, Bundle.schemas, List.mem_map]
    grind
  have hcolumns : (∀ schemas, (s.insert e a).archetypeSchemas? b.name = some schemas → schemas = b.schemas) ↔
      (∀ schemas, s.archetypeSchemas? b.name = some schemas → schemas = b.schemas) ∧
        (a.name = b.name → a.schemas = b.schemas) := by
    rw [hs.archetypeSchemas?_insert h]
    split
    · rename_i hname
      simp only [Option.some.injEq, forall_eq', hname, true_implies, iff_and_self]
      intro heq schemas hold
      exact (h.accepts.columns schemas (hname ▸ hold)).trans heq
    · rename_i hname
      simp [hname]
  constructor
  · intro hb
    obtain ⟨hold, hl⟩ := hagrees.1 hb.agrees
    obtain ⟨hc, hnew⟩ := hcolumns.1 hb.columns
    exact ⟨⟨s.frozen_insert e a ▸ hb.unfrozen, hb.distinct, hold, hc⟩, hnew, hl⟩
  · rintro ⟨hb, hc⟩
    exact ⟨(s.frozen_insert e a).trans hb.unfrozen, hb.distinct, hagrees.2 ⟨hb.agrees, hc.layouts⟩,
      hcolumns.2 ⟨hb.columns, hc.columns⟩⟩

end Accepts

end Store

end ColumnSim
