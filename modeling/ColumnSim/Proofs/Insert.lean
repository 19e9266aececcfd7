import ColumnSim.Proofs.Cell

namespace ColumnSim

variable {R : Type} {V : AssetKind → Type}

lemma bind_eq_ok_iff {A B : Type} {x : Except Error A} {f : A → Except Error B} {b : B} :
    x >>= f = .ok b ↔ ∃ a, x = .ok a ∧ f a = .ok b := by
  cases x with
  | error e => simp [bind, Except.bind]
  | ok a => simp [bind, Except.bind]

lemma map_eq_ok_iff {A B : Type} {x : Except Error A} {f : A → B} {b : B} :
    x.map f = .ok b ↔ ∃ a, x = .ok a ∧ f a = b := by
  cases x with
  | error e => simp [Except.map]
  | ok a => simp [Except.map]

lemma seq_eq_ok_iff {B : Type} {x : Except Error Unit} {f : Unit → Except Error B} {b : B} :
    x >>= f = .ok b ↔ x = .ok () ∧ f () = .ok b := by
  cases x with
  | error e => simp [bind, Except.bind]
  | ok a => simp [bind, Except.bind]

lemma unless_eq_ok_iff {B : Type} {p : Prop} [Decidable p] {e : Error} {f : Unit → Except Error B} {b : B} :
    (if p then throw e >>= f else f ()) = .ok b ↔ ¬p ∧ f () = .ok b := by
  by_cases hp : p
  · simp [hp, throw, throwThe, MonadExceptOf.throw, bind, Except.bind]
  · simp [hp]

lemma forM_eq_ok_iff {A : Type} {f : A → Except Error Unit} {xs : List A} :
    xs.forM f = .ok () ↔ ∀ x ∈ xs, f x = .ok () := by
  induction xs with
  | nil => simp [List.forM, pure, Except.pure]
  | cons x xs ih =>
    have hstep : (x :: xs).forM f = f x >>= fun _ => xs.forM f := rfl
    rw [hstep, seq_eq_ok_iff, ih]
    simp

lemma Schema.repeated?_eq_none_iff (seen : List ComponentId) (schemas : List Schema) :
    repeated? seen schemas = none ↔ (schemas.map Schema.id).Nodup ∧ ∀ s ∈ schemas, s.id ∉ seen := by
  induction schemas generalizing seen with
  | nil => simp [repeated?]
  | cons s schemas ih =>
    rw [repeated?]
    split
    · rename_i hs
      simp [hs]
    · rename_i hs
      rw [ih]
      simp only [List.map_cons, List.nodup_cons, List.mem_map, List.mem_cons]
      grind

lemma Bundle.validate_eq_ok_iff {b : Bundle R} : b.validate = .ok () ↔ (b.schemas.map Schema.id).Nodup := by
  have h := Schema.repeated?_eq_none_iff [] b.schemas
  rw [validate]
  cases hr : Schema.repeated? [] b.schemas with
  | none => simpa [hr] using h
  | some s => simpa [hr] using h

namespace Store

variable {s u : Store R V} {b : Bundle R} {e f : EntityId} {c : ComponentId} {t : Nat}

structure Accepts (s : Store R V) (b : Bundle R) : Prop where
  unfrozen : s.frozen = false
  distinct : (b.schemas.map Schema.id).Nodup
  agrees : ∀ v ∈ b.values, s.Agrees v.schema
  columns : ∀ schemas, s.archetypeSchemas? b.name = some schemas → schemas = b.schemas

lemma Accepts.allocate (hb : s.Accepts b) : ({ s with entities := s.entities.allocate.2 } : Store R V).Accepts b :=
  ⟨hb.unfrozen, hb.distinct, hb.agrees, hb.columns⟩

lemma checkArchetype_eq_ok_iff :
    s.checkArchetype b = .ok () ↔ ∀ schemas, s.archetypeSchemas? b.name = some schemas → schemas = b.schemas := by
  rw [checkArchetype]
  cases s.archetypeSchemas? b.name with
  | none => simp
  | some schemas => by_cases h : schemas = b.schemas <;> simp [h]

lemma checkValue_eq_ok_iff {target : Option EntityId} {v : ComponentValue R} :
    s.checkValue target v = .ok () ↔ s.Agrees v.schema ∧ ∀ e ∈ target, s.locate? e v.schema.id = none := by
  simp only [checkValue]
  rw [seq_eq_ok_iff, checkSchema_eq_ok_iff]
  cases target with
  | none => simp
  | some e => cases s.locate? e v.schema.id <;> simp

lemma check_eq_ok_iff {target : Option EntityId} :
    s.check target b = .ok () ↔ s.Accepts b ∧ ∀ e ∈ target, ∀ v ∈ b.values, s.locate? e v.schema.id = none := by
  rw [check]
  simp only [unless_eq_ok_iff, seq_eq_ok_iff, Bundle.validate_eq_ok_iff, forM_eq_ok_iff, checkValue_eq_ok_iff,
    checkArchetype_eq_ok_iff, Bool.not_eq_true]
  constructor
  · rintro ⟨hf, hd, hv, hc⟩
    exact ⟨⟨hf, hd, fun v hm => (hv v hm).1, hc⟩, fun e he v hm => (hv v hm).2 e he⟩
  · rintro ⟨h, hn⟩
    exact ⟨h.unfrozen, h.distinct, fun v hm => ⟨h.agrees v hm, fun e he => hn e he v hm⟩, h.columns⟩

lemma spawn_eq_ok_iff : s.spawn b = .ok (e, u) ↔ s.Accepts b ∧ e = s.entities.allocate.1 ∧
    u = { s with entities := s.entities.allocate.2 }.insert s.entities.allocate.1 b := by
  rw [spawn]
  simp only [seq_eq_ok_iff, check_eq_ok_iff]
  constructor
  · rintro ⟨⟨h, _⟩, heq⟩
    cases heq
    exact ⟨h, rfl, rfl⟩
  · rintro ⟨h, rfl, rfl⟩
    exact ⟨⟨h, fun _ he => by cases he⟩, rfl⟩

structure Takes (s : Store R V) (e : EntityId) (b : Bundle R) : Prop where
  accepts : s.Accepts b
  spawned : s.entities.contains e = true
  free : ∀ v ∈ b.values, s.locate? e v.schema.id = none

lemma attach_eq_ok_iff : s.attach e b = .ok u ↔ s.Takes e b ∧ u = s.insert e b := by
  rw [attach]
  simp only [unless_eq_ok_iff, seq_eq_ok_iff, check_eq_ok_iff, Bool.not_eq_true, Bool.not_eq_false']
  constructor
  · rintro ⟨hc, ⟨h, hn⟩, heq⟩
    cases heq
    exact ⟨⟨h, hc, hn e rfl⟩, rfl⟩
  · rintro ⟨⟨h, hc, hn⟩, rfl⟩
    exact ⟨hc, ⟨h, fun f hf => by cases hf; exact hn⟩, rfl⟩

lemma tableFor_cases {t : Nat} (h : s.tableFor b = (t, u)) : (s.archetypes[b.name]? = some t ∧ u = s) ∨
    s.archetypes[b.name]? = none ∧ t = s.tables.size ∧ u = s.addTable b.name b.schemas := by
  rw [tableFor] at h
  split at h
  · cases h
    exact .inl ⟨‹_›, rfl⟩
  · cases h
    exact .inr ⟨‹_›, rfl, rfl⟩

lemma entities_insert (s : Store R V) (e : EntityId) (b : Bundle R) : (s.insert e b).entities = s.entities := by
  rw [insert, tableFor]
  cases s.archetypes[b.name]? <;> rfl

structure Prepares (s : Store R V) (b : Bundle R) (t : Nat) (u : Store R V) (table : Table R) : Prop where
  valid : u.Valid
  found : u.tables[t]? = some table
  schemas : table.schemas = b.schemas
  entities : u.entities = s.entities
  entityAt? : ∀ p, u.entityAt? p = s.entityAt? p
  stores : ∀ {p f} c, s.entityAt? p = some f → u.stores c p = s.stores c p
  cellAt? : ∀ {p f} c, s.entityAt? p = some f → u.cellAt? p c = s.cellAt? p c

lemma Valid.tableFor (hs : s.Valid) (hb : s.Accepts b) :
    ∃ t u table, s.tableFor b = (t, u) ∧ s.Prepares b t u table := by
  rw [Store.tableFor]
  cases ha : s.archetypes[b.name]? with
  | some t =>
    obtain ⟨table, ht, _⟩ := (hs.archetypes b.name t).1 ha
    have hsch : s.archetypeSchemas? b.name = some table.schemas := by simp [archetypeSchemas?, ha, ht]
    exact ⟨t, s, table, rfl, hs, ht, hb.columns _ hsch, rfl, fun _ => rfl, fun _ _ => rfl, fun _ _ => rfl⟩
  | none =>
    have hagrees : ∀ schema ∈ b.schemas, s.Agrees schema := by
      intro schema hm
      obtain ⟨v, hv, rfl⟩ := List.mem_map.1 hm
      exact hb.agrees v hv
    refine ⟨s.tables.size, s.addTable b.name b.schemas, .empty b.name b.schemas, rfl, ?_⟩
    exact {
      valid := hs.addTable ha hb.distinct hagrees
      found := by rw [tables_addTable, if_pos rfl]
      schemas := Table.schemas_empty _ _
      entities := rfl
      entityAt? := fun _ => entityAt?_addTable
      stores := fun _ he => stores_addTable he
      cellAt? := fun _ he => cellAt?_addTable he }

namespace Valid

lemma insert (hs : s.Valid) (h : s.Takes e b) : (s.insert e b).Valid := by
  obtain ⟨t, u, table, htu, hp⟩ := hs.tableFor h.accepts
  rw [Store.insert, htu]
  apply hp.valid.pushRow hp.found hp.schemas.symm (hp.entities ▸ h.spawned)
  intro c hc
  rw [(hp.valid.tables hp.found).hasColumn_iff, hp.schemas, Bundle.schemas, List.map_map] at hc
  obtain ⟨v, hv, rfl⟩ := List.mem_map.1 hc
  refine hp.valid.locate?_eq_none_iff.2 fun p hpe => ?_
  rw [hp.entityAt?] at hpe
  rw [hp.stores _ hpe]
  exact hs.locate?_eq_none_iff.1 (h.free v hv) p hpe

lemma cell?_insert_eq_some_iff (hs : s.Valid) (h : s.Takes e b) (cell : Buffer R) :
    (s.insert e b).cell? f c = some cell ↔
      f = e ∧ ComponentValue.cellOf? b.values c = some cell ∨ s.cell? f c = some cell := by
  have hi := hs.insert h
  obtain ⟨t, u, table, htu, hp⟩ := hs.tableFor h.accepts
  have hv := hp.valid.tables hp.found
  rw [hi.cell?_eq_some_iff, hs.cell?_eq_some_iff, Store.insert, htu]
  simp only [entityAt?_pushRow hp.found]
  constructor
  · rintro ⟨p, hpe, hpc⟩
    split at hpe
    · rename_i hpn
      cases hpe
      rw [hpn, cellAt?_pushRow_self hp.found hv hp.schemas.symm] at hpc
      exact .inl ⟨rfl, hpc⟩
    · rw [cellAt?_pushRow hp.found hv hp.schemas.symm hpe] at hpc
      rw [hp.entityAt?] at hpe
      rw [hp.cellAt? c hpe] at hpc
      exact .inr ⟨p, hpe, hpc⟩
  · rintro (⟨rfl, hc⟩ | ⟨p, hpe, hpc⟩)
    · refine ⟨⟨t, table.size⟩, if_pos rfl, ?_⟩
      rw [cellAt?_pushRow_self hp.found hv hp.schemas.symm, hc]
    · have hpu : u.entityAt? p = some f := (hp.entityAt? p).trans hpe
      refine ⟨p, ?_, ?_⟩
      · rw [if_neg fun hpn => ?_, hpu]
        rw [hpn, entityAt?_end hp.found (Nat.le_refl _)] at hpu
        cases hpu
      · rw [cellAt?_pushRow hp.found hv hp.schemas.symm hpu, hp.cellAt? c hpe, hpc]

lemma cell?_insert (hs : s.Valid) (h : s.Takes e b) :
    (s.insert e b).cell? f c = (s.cell? f c).or (if f = e then ComponentValue.cellOf? b.values c else none) := by
  have hiff := hs.cell?_insert_eq_some_iff (f := f) (c := c) h
  cases hold : s.cell? f c with
  | some old =>
    rw [Option.some_or]
    exact (hiff old).2 (.inr hold)
  | none =>
    apply Option.ext
    intro cell
    rw [hiff, hold, Option.none_or]
    split <;> simp [*]

lemma locate?_allocate (hs : s.Valid) : s.locate? s.entities.allocate.1 c = none := by
  refine hs.locate?_eq_none_iff.2 fun p hp => ?_
  have hc := hs.spawned hp
  simp [Allocator.contains, Allocator.allocate] at hc

lemma allocate (hs : s.Valid) : ({ s with entities := s.entities.allocate.2 } : Store R V).Valid :=
  hs.frame fun h => Allocator.contains_allocate.2 (.inl h)

lemma takes_allocate (hs : s.Valid) (hb : s.Accepts b) :
    ({ s with entities := s.entities.allocate.2 } : Store R V).Takes s.entities.allocate.1 b :=
  ⟨hb.allocate, Allocator.contains_allocate.2 (.inr rfl), fun _ _ => hs.locate?_allocate⟩

lemma spawn (hs : s.Valid) (h : s.spawn b = .ok (e, u)) : u.Valid := by
  obtain ⟨hb, rfl, rfl⟩ := spawn_eq_ok_iff.1 h
  exact hs.allocate.insert (hs.takes_allocate hb)

lemma cell?_spawn (hs : s.Valid) (h : s.spawn b = .ok (e, u)) :
    u.cell? f c = (s.cell? f c).or (if f = e then ComponentValue.cellOf? b.values c else none) := by
  obtain ⟨hb, rfl, rfl⟩ := spawn_eq_ok_iff.1 h
  exact hs.allocate.cell?_insert (hs.takes_allocate hb)

lemma attach (hs : s.Valid) (h : s.attach e b = .ok u) : u.Valid := by
  obtain ⟨ht, rfl⟩ := attach_eq_ok_iff.1 h
  exact hs.insert ht

lemma cell?_attach (hs : s.Valid) (h : s.attach e b = .ok u) :
    u.cell? f c = (s.cell? f c).or (if f = e then ComponentValue.cellOf? b.values c else none) := by
  obtain ⟨ht, rfl⟩ := attach_eq_ok_iff.1 h
  exact hs.cell?_insert ht

end Valid

end Store

end ColumnSim
