import ColumnSim.Proofs.Extension
import ColumnSim.Proofs.Match

namespace ColumnSim.Store

variable {R : Type} {V : AssetKind → Type} {s u v : Store R V} {a b : Bundle R} {e f : EntityId} {c : ComponentId}

structure SameReads (u v : Store R V) : Prop where
  left : u.Valid
  right : v.Valid
  agrees : ∀ schema, u.Agrees schema ↔ v.Agrees schema
  cells : ∀ e c, u.cell? e c = v.cell? e c

namespace SameReads

variable (h : SameReads u v)

include h

lemma get_eq_ok_iff {schema : Schema} {x : Option (schema.Value R)} :
    u.get schema e = .ok x ↔ v.get schema e = .ok x := by
  have hget : ∀ s : Store R V, s.get schema e = .ok x ↔ s.Agrees schema ∧ s.value? schema e = x := fun s => by
    rw [get, seq_eq_ok_iff, checkSchema_eq_ok_iff]
    simp [pure, Except.pure]
  rw [hget, hget, h.agrees, value?_eq_cell?, value?_eq_cell?, h.cells]

lemma query_eq_ok_iff {inputs : List Schema} {q : Query R inputs} :
    u.query inputs = .ok q ↔ v.query inputs = .ok q := by
  have hquery : ∀ s : Store R V, s.query inputs = .ok q ↔ (∀ schema ∈ inputs, s.Agrees schema) ∧ q = ⟨s.join inputs⟩ :=
    fun s => ⟨agrees_of_query, fun ⟨ha, hq⟩ => by rw [query_eq_ok ha, hq]⟩
  simp only [hquery, h.agrees]
  refine and_congr_right fun ha => ?_
  have hau : ∀ schema ∈ inputs, u.Agrees schema := fun schema hm => (h.agrees schema).2 (ha schema hm)
  rw [h.left.join_congr hau h.right ha fun schema _ e => h.cells e schema.id]

end SameReads

lemma Valid.takes_insert_iff (hs : s.Valid) (ha : s.Takes e a) (hne : e ≠ f) :
    (s.insert e a).Takes f b ↔ s.Takes f b ∧ a.Compatible b := by
  have haccepts := hs.accepts_insert (b := b) ha
  have hlocate : ∀ c, (s.insert e a).locate? f c = none ↔ s.locate? f c = none := fun c => by
    rw [← Option.not_isSome_iff_eq_none, ← Option.not_isSome_iff_eq_none, ← (hs.insert ha).cell?_isSome,
      ← hs.cell?_isSome, hs.cell?_insert ha, if_neg hne.symm, Option.or_none]
  constructor
  · rintro ⟨hb, hf, hn⟩
    obtain ⟨hb, hc⟩ := haccepts.1 hb
    exact ⟨⟨hb, entities_insert s e a ▸ hf, fun v hv => (hlocate _).1 (hn v hv)⟩, hc⟩
  · rintro ⟨⟨hb, hf, hn⟩, hc⟩
    exact ⟨haccepts.2 ⟨hb, hc⟩, (entities_insert s e a).symm ▸ hf, fun v hv => (hlocate _).2 (hn v hv)⟩

lemma Valid.attach_attach_iff (hs : s.Valid) (hne : e ≠ f) :
    (∃ t, s.attach e a = .ok t ∧ t.attach f b = .ok u) ↔
      (s.Takes e a ∧ s.Takes f b ∧ a.Compatible b) ∧ u = (s.insert e a).insert f b := by
  simp only [attach_eq_ok_iff]
  constructor
  · rintro ⟨_, ⟨ha, rfl⟩, hb, hu⟩
    obtain ⟨hb, hc⟩ := (hs.takes_insert_iff ha hne).1 hb
    exact ⟨⟨ha, hb, hc⟩, hu⟩
  · rintro ⟨⟨ha, hb, hc⟩, hu⟩
    exact ⟨_, ⟨ha, rfl⟩, (hs.takes_insert_iff ha hne).2 ⟨hb, hc⟩, hu⟩

section Swap

variable (hs : s.Valid) (hne : e ≠ f) (ha : s.Takes e a) (hb : s.Takes f b) (hc : a.Compatible b)

include hs hne ha hb hc

lemma sameReads_insert_insert : SameReads ((s.insert e a).insert f b) ((s.insert f b).insert e a) := by
  have hab := (hs.takes_insert_iff ha hne).2 ⟨hb, hc⟩
  have hba := (hs.takes_insert_iff hb hne.symm).2 ⟨ha, hc.symm⟩
  have hva := hs.insert ha
  have hvb := hs.insert hb
  refine ⟨hva.insert hab, hvb.insert hba, fun schema => ?_, fun g c => ?_⟩
  · rw [hva.agrees_insert hab.accepts, hvb.agrees_insert hba.accepts, hs.agrees_insert ha.accepts,
      hs.agrees_insert hb.accepts, and_right_comm]
  · rw [hva.cell?_insert hab, hvb.cell?_insert hba, hs.cell?_insert ha, hs.cell?_insert hb]
    by_cases hg : g = e
    · simp [hg, hne]
    · simp [hg]

lemma archetypeSchemas?_insert_insert (name : ArchetypeName) :
    ((s.insert e a).insert f b).archetypeSchemas? name = ((s.insert f b).insert e a).archetypeSchemas? name := by
  have hab := (hs.takes_insert_iff ha hne).2 ⟨hb, hc⟩
  have hba := (hs.takes_insert_iff hb hne.symm).2 ⟨ha, hc.symm⟩
  rw [(hs.insert ha).archetypeSchemas?_insert hab, (hs.insert hb).archetypeSchemas?_insert hba,
    hs.archetypeSchemas?_insert ha, hs.archetypeSchemas?_insert hb]
  by_cases hna : a.name = name
  · by_cases hnb : b.name = name
    · simp [hna, hnb, hc.columns (hna.trans hnb.symm)]
    · simp [hna, hnb]
  · simp [hna]

end Swap

theorem Reachable.attach_comm (hs : s.Reachable) (hne : e ≠ f) :
    ((∃ u t, s.attach e a = .ok t ∧ t.attach f b = .ok u) ↔ ∃ v t, s.attach f b = .ok t ∧ t.attach e a = .ok v) ∧
      ∀ u v, (∃ t, s.attach e a = .ok t ∧ t.attach f b = .ok u) →
        (∃ t, s.attach f b = .ok t ∧ t.attach e a = .ok v) →
        (∀ inputs (q : Query R inputs), u.query inputs = .ok q ↔ v.query inputs = .ok q) ∧
        (∀ g (schema : Schema) (x : Option (schema.Value R)), u.get schema g = .ok x ↔ v.get schema g = .ok x) ∧
        ∀ name, u.archetypeSchemas? name = v.archetypeSchemas? name := by
  simp only [hs.valid.attach_attach_iff hne, hs.valid.attach_attach_iff hne.symm]
  constructor
  · constructor
    · rintro ⟨_, ⟨ha, hb, hc⟩, _⟩
      exact ⟨_, ⟨hb, ha, hc.symm⟩, rfl⟩
    · rintro ⟨_, ⟨hb, ha, hc⟩, _⟩
      exact ⟨_, ⟨ha, hb, hc.symm⟩, rfl⟩
  · rintro u v ⟨⟨ha, hb, hc⟩, rfl⟩ ⟨_, rfl⟩
    have hreads := sameReads_insert_insert hs.valid hne ha hb hc
    exact ⟨fun _ _ => hreads.query_eq_ok_iff, fun _ _ _ => hreads.get_eq_ok_iff,
      archetypeSchemas?_insert_insert hs.valid hne ha hb hc⟩

theorem Reachable.attach_comm_fire_ice : ∃ (s u v : Store Nat Tokens) (fire ice : Bundle Nat)
    (q : Query Nat [.scalar "mass" .f64, .scalar "heat" .f64]), s.Reachable ∧ (⟨0⟩ : EntityId) ≠ ⟨1⟩ ∧
    (∃ t, s.attach ⟨0⟩ fire = .ok t ∧ t.attach ⟨1⟩ ice = .ok u) ∧
    (∃ t, s.attach ⟨1⟩ ice = .ok t ∧ t.attach ⟨0⟩ fire = .ok v) ∧
    u.archetypeNames = [⟨"rock"⟩, ⟨"fire"⟩, ⟨"ice"⟩] ∧ v.archetypeNames = [⟨"rock"⟩, ⟨"ice"⟩, ⟨"fire"⟩] ∧
    q.entities = [⟨0⟩, ⟨1⟩] ∧
    u.query [.scalar "mass" .f64, .scalar "heat" .f64] = .ok q ∧
    v.query [.scalar "mass" .f64, .scalar "heat" .f64] = .ok q := by
  let rock : Bundle Nat := (Bundle.empty "rock").add (.scalar "mass" .f64) #v[5]
  let fire : Bundle Nat := (Bundle.empty "fire").add (.scalar "heat" .f64) #v[8]
  let ice : Bundle Nat := (Bundle.empty "ice").add (.scalar "heat" .f64) #v[0]
  let inputs : List Schema := [.scalar "mass" .f64, .scalar "heat" .f64]
  let s : Store Nat Tokens := empty.applyAll [.spawn rock, .spawn rock]
  have hs : s.Reachable := ⟨_, rfl⟩
  have hne : (⟨0⟩ : EntityId) ≠ ⟨1⟩ := by decide
  have hfirst : (s.attach ⟨0⟩ fire >>= (·.attach ⟨1⟩ ice)).map
      (fun u => (u.archetypeNames, (u.query inputs).map Query.entities)) =
        .ok ([⟨"rock"⟩, ⟨"fire"⟩, ⟨"ice"⟩], .ok [⟨0⟩, ⟨1⟩]) := by decide +kernel
  have hsecond : (s.attach ⟨1⟩ ice >>= (·.attach ⟨0⟩ fire)).map Store.archetypeNames =
      .ok [⟨"rock"⟩, ⟨"ice"⟩, ⟨"fire"⟩] := by decide +kernel
  obtain ⟨u, hu, hread⟩ := map_eq_ok_iff.1 hfirst
  obtain ⟨v, hv, hnames⟩ := map_eq_ok_iff.1 hsecond
  obtain ⟨hnames', hentities⟩ := Prod.mk.inj hread
  obtain ⟨q, hq, hqe⟩ := map_eq_ok_iff.1 hentities
  have hu := bind_eq_ok_iff.1 hu
  have hv := bind_eq_ok_iff.1 hv
  obtain ⟨hquery, _⟩ := (hs.attach_comm hne).2 u v hu hv
  exact ⟨s, u, v, fire, ice, q, hs, hne, hu, hv, hnames', hnames, hqe, hq, (hquery _ q).1 hq⟩

end ColumnSim.Store
