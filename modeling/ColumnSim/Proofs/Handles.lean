import ColumnSim.Proofs.Extension
import ColumnSim.Proofs.Latest

namespace ColumnSim

variable {R : Type} {V : AssetKind → Type} {e : EntityId} {schema : Schema} {v : schema.Value R} {k : AssetKind}

namespace Handle

lemma ofValue_toValue {h : Handle k} (hraw : h.raw < UInt64.size) : ofValue (h.toValue (R := R)) = h := by
  have hunpack : Schema.unpack (h.toValue (R := R)) = UInt64.ofNat h.raw := rfl
  rw [ofValue, hunpack, UInt64.toNat_ofNat_of_lt' hraw]

end Handle

namespace Assets

variable {a b : Assets V}

lemma get?_of_entry {entry : Asset V} {raw : Nat} (h : a.entries[raw]? = some entry) :
    a.get? (⟨raw⟩ : Handle k) = entry.downcast? k := by
  rw [get?, h, Option.bind_some]

def Precedes (a b : Assets V) : Prop := a.entries.toList <+: b.entries.toList

lemma Precedes.entry {i : Nat} {entry : Asset V} (h : a.Precedes b) (hi : a.entries[i]? = some entry) :
    b.entries[i]? = some entry := by
  obtain ⟨back, hback⟩ := h
  rw [← Array.getElem?_toList] at hi ⊢
  rw [← hback, List.getElem?_append_left (List.getElem?_eq_some_iff.1 hi).1, hi]

lemma precedes_insert (a : Assets V) (k : AssetKind) (content : V k) : a.Precedes (a.insert k content).2 := by
  rw [Precedes, insert, Array.toList_push]
  exact List.prefix_append _ _

lemma entry_insert (a : Assets V) (k : AssetKind) (content : V k) :
    (a.insert k content).2.entries[(a.insert k content).1.raw]? = some ⟨k, content⟩ := Array.getElem?_push_size

end Assets

namespace Event

inductive Gives (e : EntityId) (schema : Schema) (v : schema.Value R) : Event R V → Prop
  | spawned {b} (h : ⟨schema, v⟩ ∈ b.values) : Gives e schema v (.spawned e b)
  | attached {b} (h : ⟨schema, v⟩ ∈ b.values) : Gives e schema v (.attached e b)
  | written {entries} (h : lastOf? entries e = some v) : Gives e schema v (.written schema entries)

end Event

namespace Store

variable {s u w : Store R V} {event : Event R V} {front events back : List (Event R V)}

lemma Run.split (h : Run s (front ++ back) w) : ∃ u, Run s front u ∧ Run u back w := by
  induction front generalizing s with
  | nil => exact ⟨s, .nil, h⟩
  | cons event front ih =>
    cases h with
    | cons h hr =>
      obtain ⟨u, hf, hb⟩ := ih hr
      exact ⟨u, .cons h hf, hb⟩

lemma events_write {es : List EntityId} {vs : List (schema.Value R)} (h : (s.write schema es vs).isOk = true) :
    s.events (.write schema es vs) = [.written schema (es.zip vs)] := by
  rw [events]
  cases hw : s.write schema es vs with
  | error error =>
    rw [hw] at h
    cases h
  | ok u => rfl

section Given

lemma Valid.registersAs_of_cell? (hs : s.Valid) (ha : s.Agrees schema) {cell : Buffer R}
    (hc : s.cell? e schema.id = some cell) : s.RegistersAs schema := by
  obtain ⟨p, hp, _⟩ := Option.bind_eq_some_iff.1 hc
  obtain ⟨_, registered, _, hr, _⟩ := hs.cellAt?_of_locate? hp
  exact ⟨registered, hr, ha registered hr⟩

lemma Accepts.cellOf? {b : Bundle R} (hb : s.Accepts b) (hv : ⟨schema, v⟩ ∈ b.values) :
    ComponentValue.cellOf? b.values schema.id = some (.ofValue v) := by
  have hn : (b.values.map (·.schema.id)).Nodup := by
    simpa [Bundle.schemas, Function.comp_def] using hb.distinct
  exact (Table.cellOf?_eq_some_iff hn).2 ⟨_, hv, rfl, rfl⟩

lemma Valid.given_insert (hs : s.Valid) {b : Bundle R} (h : s.Takes e b) (hv : ⟨schema, v⟩ ∈ b.values) :
    (s.insert e b).RegistersAs schema ∧ (s.insert e b).cell? e schema.id = some (.ofValue v) := by
  have hcell : (s.insert e b).cell? e schema.id = some (.ofValue v) :=
    (hs.cell?_insert_eq_some_iff h _).2 (.inl ⟨rfl, h.accepts.cellOf? hv⟩)
  have hheld : (e, schema) ∈ (s.insert e b).holdings :=
    (hs.mem_holdings_insert h.accepts).2 (.inl ⟨rfl, List.mem_map_of_mem hv⟩)
  exact ⟨(hs.insert h).registersAs_of_mem_holdings hheld, hcell⟩

lemma Step.given (h : Step s event u) (hs : s.Valid) (hg : event.Gives e schema v) :
    u.RegistersAs schema ∧ u.cell? e schema.id = some (.ofValue v) := by
  cases hg with
  | spawned hv =>
    cases h with
    | spawned h =>
      obtain ⟨hb, rfl, rfl⟩ := spawn_eq_ok_iff.1 h
      exact hs.allocate.given_insert (hs.takes_allocate hb) hv
  | attached hv =>
    cases h with
    | attached h =>
      obtain ⟨ht, rfl⟩ := attach_eq_ok_iff.1 h
      exact hs.given_insert ht hv
  | written hv =>
    have hu := h.valid hs
    have hcell : u.cell? e schema.id = some (.ofValue v) := by
      rw [h.cell? hs, Event.written?, if_pos rfl, hv, Option.map_some, Option.some_or]
    cases h with
    | written h =>
      obtain ⟨_, ha, _⟩ := write_eq_ok_iff.1 h
      exact ⟨hu.registersAs_of_cell? ((Refills.write hs h).agrees_iff.2 ha) hcell, hcell⟩

lemma Run.get_of_gives (h : Run s (front ++ event :: back) w) (hs : s.Valid) (hg : event.Gives e schema v)
    (hback : ∀ later ∈ back, later.written? e schema.id = none) : w.get schema e = .ok (some v) := by
  obtain ⟨t, hfront, hrest⟩ := h.split
  have ht := hfront.valid hs
  cases hrest with
  | @cons _ u _ _ _ hstep hr =>
    obtain ⟨⟨registered, hreg, hl⟩, hcell⟩ := hstep.given ht hg
    have hu := hstep.valid ht
    have hkept : back.reverse.findSome? (Event.written? e schema.id) = none :=
      List.findSome?_eq_none_iff.2 fun later hm => hback later (List.mem_reverse.1 hm)
    have hagrees : w.RegistersAs schema := ⟨registered, hr.schema? hu hreg, hl⟩
    refine get_of_cell? hagrees.agrees ?_
    rw [hr.cell? hu, hkept, hcell, Option.none_or, Option.some_or]

end Given

section Assets

lemma assets_insert (s : Store R V) (e : EntityId) (b : Bundle R) : (s.insert e b).assets = s.assets := by
  rw [insert, tableFor]
  cases s.archetypes[b.name]? <;> rfl

lemma Step.precedes (h : Step s event u) : s.assets.Precedes u.assets := by
  cases h with
  | spawned h =>
    obtain ⟨_, _, rfl⟩ := spawn_eq_ok_iff.1 h
    rw [assets_insert]
    exact List.prefix_rfl
  | named => exact List.prefix_rfl
  | attached h =>
    obtain ⟨_, rfl⟩ := attach_eq_ok_iff.1 h
    rw [assets_insert]
    exact List.prefix_rfl
  | written h =>
    obtain ⟨_, rfl⟩ := eq_of_outline (outline_write h)
    exact List.prefix_rfl
  | added => exact s.assets.precedes_insert _ _
  | frozen => exact List.prefix_rfl

lemma Run.precedes (h : Run s events u) : s.assets.Precedes u.assets := by
  induction h with
  | nil => exact List.prefix_rfl
  | cons h _ ih => exact List.IsPrefix.trans h.precedes ih

end Assets

theorem Reachable.asset_of_handle (hs : s.Reachable) (k : AssetKind) (content : V k)
    (changes : List (Change R V)) :
    let h := (s.insertAsset k content).1
    let t := (s.insertAsset k content).2
    let u := t.applyAll changes
    (s.assets.size < UInt64.size → ∀ (e : EntityId) (front back : List (Event R V)) (event : Event R V),
      t.log changes = front ++ event :: back → event.Gives e (Handle.schema k) h.toValue →
      (∀ later ∈ back, later.written? e (Handle.schema k).id = none) →
      ∃ v, u.get (Handle.schema k) e = .ok (some v) ∧ (Handle.ofValue v : Handle k) = h ∧
        u.assets.get? (Handle.ofValue v : Handle k) = some content) ∧
    (∀ k' content', (u.insertAsset k' content').1.raw ≠ h.raw) ∧
    ∀ k' ≠ k, u.assets.get? (⟨h.raw⟩ : Handle k') = none := by
  intro h t u
  have ht : t.Valid := (Step.added : Step s (.added k content) t).valid hs.valid
  have hrun : Run t (t.log changes) u := t.applyAll_run changes
  have hentry : u.assets.entries[h.raw]? = some ⟨k, content⟩ :=
    hrun.precedes.entry (s.assets.entry_insert k content)
  refine ⟨fun hsize e front back event hlog hgives hback => ?_, fun k' content' => ?_, fun k' hk => ?_⟩
  · have hget := (hlog ▸ hrun).get_of_gives ht hgives hback
    have hread : (Handle.ofValue (h.toValue (R := R)) : Handle k) = h := Handle.ofValue_toValue hsize
    refine ⟨_, hget, hread, ?_⟩
    rw [hread]
    exact (Assets.get?_of_entry hentry).trans (Asset.downcast?_self k content)
  · have hlt : h.raw < u.assets.size := (Array.getElem?_eq_some_iff.1 hentry).1
    exact Nat.ne_of_gt hlt
  · exact (Assets.get?_of_entry hentry).trans (Asset.downcast?_of_ne content hk)

theorem Reachable.asset_of_handle_mesh :
    let V : AssetKind → Type := fun k => if k.id = 1 then String else Nat
    let mesh : AssetKind := ⟨0, "mesh"⟩
    let paint : AssetKind := ⟨1, "material"⟩
    let grid : AssetKind := ⟨2, "mesh"⟩
    let model (h : Handle mesh) : Bundle Nat := (Bundle.empty "model").add (Handle.schema mesh) h.toValue
    let s : Store Nat V := empty.applyAll [.insertAsset paint "red", .spawn (model ⟨0⟩)]
    let h := (s.insertAsset mesh (8 : Nat)).1
    let changes : List (Change Nat V) := [.insertAsset paint "blue",
      .write (Handle.schema mesh) [⟨0⟩] [h.toValue], .insertAsset grid (3 : Nat), .spawn (model ⟨3⟩), .freeze]
    let u := (s.insertAsset mesh (8 : Nat)).2.applyAll changes
    s.Reachable ∧ s.assets.size < UInt64.size ∧
      (∃ v, u.get (Handle.schema mesh) ⟨0⟩ = .ok (some v) ∧
        u.assets.get? (Handle.ofValue v : Handle mesh) = some (8 : Nat)) ∧
      (u.insertAsset paint "green").1.raw ≠ h.raw ∧ u.assets.get? (⟨h.raw⟩ : Handle paint) = none ∧
      Handle.schema grid = Handle.schema mesh ∧ u.assets.get? (⟨h.raw⟩ : Handle grid) = none := by
  intro V mesh paint grid model s h changes u
  have hs : s.Reachable := ⟨_, rfl⟩
  have hsize : s.assets.size < UInt64.size := by decide +kernel
  obtain ⟨hkept, hfresh, hkind⟩ := hs.asset_of_handle mesh (8 : Nat) changes
  let filled : Store Nat V := ((s.insertAsset mesh (8 : Nat)).2.apply (.insertAsset paint "blue")).2
  let written : Store Nat V := (filled.apply (.write (Handle.schema mesh) [⟨0⟩] [h.toValue])).2
  have hwritten : filled.events (.write (Handle.schema mesh) [⟨0⟩] [h.toValue]) =
      [.written (Handle.schema mesh) [(⟨0⟩, h.toValue)]] := events_write (by decide +kernel)
  have hlog : (s.insertAsset mesh (8 : Nat)).2.log changes = [.added paint "blue"] ++
      .written (Handle.schema mesh) [(⟨0⟩, h.toValue)] ::
        written.log [.insertAsset grid (3 : Nat), .spawn (model ⟨3⟩), .freeze] := by
    rw [log, log, hwritten]
    rfl
  obtain ⟨v, hget, _, hasset⟩ := hkept hsize ⟨0⟩ _ _ _ hlog (.written rfl) (by decide +kernel)
  exact ⟨hs, hsize, ⟨v, hget, hasset⟩, hfresh paint "green", hkind paint (by decide), rfl, hkind grid (by decide)⟩

end Store

end ColumnSim
