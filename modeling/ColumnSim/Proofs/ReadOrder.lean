import ColumnSim.Proofs.Extension
import ColumnSim.Proofs.ReadBack
import Mathlib.Data.List.Flatten

namespace ColumnSim

variable {R : Type} {V : AssetKind → Type} {c : ComponentId} {name : ArchetypeName} {e : EntityId}

namespace Event

variable {events front back : List (Event R V)} {event : Event R V}

def archetype? : Event R V → Option ArchetypeName
  | .spawned _ b => some b.name
  | .attached _ b => some b.name
  | _ => none

def archetypes (events : List (Event R V)) : List ArchetypeName := (events.filterMap archetype?).eraseDups

def recipientsIn (events : List (Event R V)) (name : ArchetypeName) (c : ComponentId) : List EntityId :=
  recipients (events.filter fun event => event.archetype? = some name) c

/-- One archetype after the other, as they first appear, and in each the entities as they were given the component. -/
def readOrder (events : List (Event R V)) (c : ComponentId) : List EntityId :=
  (archetypes events).flatMap fun name => recipientsIn events name c

lemma archetypes_append (front back : List (Event R V)) : archetypes (front ++ back) =
    archetypes front ++ ((back.filterMap archetype?).removeAll (front.filterMap archetype?)).eraseDups := by
  simp [archetypes, List.eraseDups_append]

lemma archetypes_concat (h : event.archetype? = some name) :
    archetypes (events ++ [event]) = archetypes events ++ if name ∈ archetypes events then [] else [name] := by
  have hnew : [event].filterMap archetype? = [name] := by simp [h]
  rw [archetypes_append, hnew, archetypes]
  simp only [List.mem_eraseDups]
  generalize events.filterMap archetype? = names
  by_cases hm : name ∈ names
  · simp [List.removeAll, hm]
  · simp [List.removeAll, hm, List.eraseDups_cons]

lemma mem_archetypes_iff : name ∈ archetypes events ↔ ∃ event ∈ events, event.archetype? = some name := by
  simp [archetypes]

lemma recipientsIn_append :
    recipientsIn (front ++ back) name c = recipientsIn front name c ++ recipientsIn back name c := by
  simp [recipientsIn, recipients]

lemma recipientsIn_of_not_mem (h : name ∉ archetypes events) : recipientsIn events name c = [] := by
  have hnone : events.filter (fun event => event.archetype? = some name) = [] :=
    List.filter_eq_nil_iff.2 fun event hm ha => h (mem_archetypes_iff.2 ⟨event, hm, by simpa using ha⟩)
  rw [recipientsIn, hnone]
  rfl

lemma recipientsIn_of_none (h : ∀ event ∈ events, event.recipient? c = none) : recipientsIn events name c = [] :=
  List.filterMap_eq_nil_iff.2 fun event hm => h event (List.mem_of_mem_filter hm)

lemma readOrder_append_sublist (front back : List (Event R V)) (c : ComponentId) :
    (readOrder front c).Sublist (readOrder (front ++ back) c) := by
  rw [readOrder, readOrder, archetypes_append, List.flatMap_append]
  apply List.sublist_append_of_sublist_left
  apply List.Sublist.flatMap_right
  intro name _
  rw [recipientsIn_append]
  exact List.sublist_append_left _ _

lemma readOrder_append_of_none (h : ∀ event ∈ back, event.recipient? c = none) :
    readOrder (front ++ back) c = readOrder front c := by
  have hsame : ∀ name, recipientsIn (front ++ back) name c = recipientsIn front name c := fun name => by
    rw [recipientsIn_append, recipientsIn_of_none h, List.append_nil]
  have hnew : ∀ name ∈ ((back.filterMap archetype?).removeAll (front.filterMap archetype?)).eraseDups,
      recipientsIn front name c = [] := by
    intro name hm
    have hnames : name ∉ front.filterMap archetype? := by
      rw [List.mem_eraseDups, List.removeAll, List.mem_filter] at hm
      simpa using hm.2
    exact recipientsIn_of_not_mem (mt List.mem_eraseDups.1 hnames)
  simp only [readOrder, archetypes_append, List.flatMap_append, hsame]
  rw [List.flatMap_eq_nil_iff.2 hnew, List.append_nil]

end Event

namespace Roll

variable {rolls : List Roll} {events : List (Event R V)} {event : Event R V}

def holders (roll : Roll) (c : ComponentId) : List EntityId :=
  if c ∈ roll.schemas.map Schema.id then roll.entities else []

def holdersIn (rolls : List Roll) (name : ArchetypeName) (c : ComponentId) : List EntityId :=
  ((rolls.find? fun roll => roll.name = name).map (·.holders c)).getD []

structure Recorded (rolls : List Roll) (events : List (Event R V)) : Prop where
  names : rolls.map Roll.name = Event.archetypes events
  holders : ∀ name c, holdersIn rolls name c = Event.recipientsIn events name c

lemma recorded_nil : Recorded [] ([] : List (Event R V)) := ⟨rfl, fun _ _ => rfl⟩

lemma names_enroll (schemas : List Schema) : (enroll name schemas e rolls).map Roll.name =
    rolls.map Roll.name ++ if name ∈ rolls.map Roll.name then [] else [name] := by
  induction rolls with
  | nil => rfl
  | cons roll rolls ih =>
    by_cases h : roll.name = name
    · simp [enroll, push, h]
    · simp [enroll, h, Ne.symm h, ih]

namespace Recorded

variable (h : Recorded rolls events)

include h

lemma skip (hevent : event.archetype? = none) : Recorded rolls (events ++ [event]) where
  names := by simpa [Event.archetypes, hevent] using h.names
  holders name c := by
    rw [h.holders]
    simp [Event.recipientsIn, hevent]

lemma enroll {b : Bundle R} (hevent : event.archetype? = some b.name)
    (hrecipient : ∀ c, event.recipient? c = if c ∈ b.schemas.map Schema.id then some e else none)
    (hcolumns : ∀ roll, rolls.find? (fun roll => roll.name = b.name) = some roll → roll.schemas = b.schemas) :
    Recorded (Roll.enroll b.name b.schemas e rolls) (events ++ [event]) where
  names := by
    rw [names_enroll, Event.archetypes_concat hevent, h.names]
  holders name c := by
    rw [Event.recipientsIn_append, ← h.holders, holdersIn, holdersIn, find?_enroll]
    split
    · rename_i hname
      subst hname
      have hlast : Event.recipientsIn [event] b.name c = if c ∈ b.schemas.map Schema.id then [e] else [] := by
        by_cases hc : c ∈ b.schemas.map Schema.id <;>
          simp [Event.recipientsIn, Event.recipients, hevent, hrecipient, hc]
      rw [hlast]
      cases hfound : rolls.find? fun roll => roll.name = b.name with
      | none => simp [Roll.holders, push]
      | some roll =>
        simp only [Option.getD_some, Option.map_some, Roll.holders, push, hcolumns roll hfound]
        split <;> rfl
    · rename_i hname
      have hlast : Event.recipientsIn [event] name c = [] := by
        simp [Event.recipientsIn, Event.recipients, hevent, hname]
      rw [hlast, List.append_nil]

lemma flatMap_holders (hn : (rolls.map Roll.name).Nodup) (c : ComponentId) :
    rolls.flatMap (·.holders c) = Event.readOrder events c := by
  rw [Event.readOrder, ← h.names, List.flatMap_map]
  refine List.flatMap_congr fun roll hm => ?_
  rw [← h.holders, holdersIn, (find?_eq_some_iff_mem hn).2 ⟨hm, rfl⟩]
  rfl

end Recorded

end Roll

namespace Store

variable {s u : Store R V} {events past : List (Event R V)} {event : Event R V} {schema : Schema}

section History

lemma Step.recorded (h : Step s event u) (hs : s.Valid) (hp : Roll.Recorded s.rolls past) :
    Roll.Recorded u.rolls (past ++ [event]) := by
  have hcolumns : ∀ {b : Bundle R}, s.Accepts b → ∀ roll,
      s.rolls.find? (fun roll => roll.name = b.name) = some roll → roll.schemas = b.schemas := by
    intro b hb roll hroll
    exact hb.columns roll.schemas (by rw [hs.archetypeSchemas?_eq, hroll]; rfl)
  cases h with
  | spawned h =>
    obtain ⟨hb, rfl, rfl⟩ := spawn_eq_ok_iff.1 h
    rw [hs.allocate.rolls_insert hb.allocate]
    exact hp.enroll rfl (fun _ => rfl) (hcolumns hb)
  | attached h =>
    obtain ⟨ht, rfl⟩ := attach_eq_ok_iff.1 h
    rw [hs.rolls_insert ht.accepts]
    exact hp.enroll rfl (fun _ => rfl) (hcolumns ht.accepts)
  | written h =>
    rw [rolls_of_outline (outline_write h)]
    exact hp.skip rfl
  | named => exact hp.skip rfl
  | added => exact hp.skip rfl
  | frozen => exact hp.skip rfl

lemma Run.recorded (h : Run s events u) (hs : s.Valid) (hp : Roll.Recorded s.rolls past) :
    Roll.Recorded u.rolls (past ++ events) := by
  induction h generalizing past with
  | nil => rwa [List.append_nil]
  | cons h _ ih =>
    rw [List.append_cons]
    exact ih (h.valid hs) (h.recorded hs hp)

lemma Valid.entitiesWith_eq_holders (hs : s.Valid) : s.entitiesWith c = s.rolls.flatMap (·.holders c) := by
  rw [entitiesWith_eq, hs.tables_holdersOf, flatMap_filter, rolls, List.flatMap_map]
  refine List.flatMap_congr fun table hm => ?_
  exact if_congr (hs.valid_of_mem (Array.mem_toList_iff.1 hm)).hasColumn_iff rfl rfl

lemma Valid.entitiesWith_eq_readOrder (hs : s.Valid) (hp : Roll.Recorded s.rolls past) :
    s.entitiesWith c = Event.readOrder past c := by
  rw [hs.entitiesWith_eq_holders, hp.flatMap_holders hs.names_nodup]

end History

lemma Valid.get_of_reads (hs : s.Valid) {a : ColumnArray R} (ha : a.Reads (s.cell? · c)) {i : Nat}
    (he : a.entities[i]? = some e) (hh : s.Holds e c) {x : Schema} (hid : x.id = c) (hx : s.Agrees x) :
    ∃ v : x.Value R, s.get x e = .ok (some v) ∧ a.column.cell? i = some (.ofValue v) := by
  subst hid
  obtain ⟨v, hv⟩ := Option.isSome_iff_exists.1 ((hs.value?_isSome_iff hx).2 hh)
  refine ⟨v, by rw [get_eq_ok hx, hv], ?_⟩
  rw [ha.cells i e he, hs.cell?_eq_value? hx, hv, Option.map_some]

theorem columnArray_reads_back {changes : List (Change R V)} (hs : s = empty.applyAll changes)
    (hc : s.schema? c = some schema) : ∃ a, s.columnArray c = .ok a ∧ a.schema = schema ∧
      a.entities = s.entitiesWith c ∧ s.archetypeNames = Event.archetypes (empty.log changes) ∧
      a.entities = Event.readOrder (empty.log changes) c ∧ a.entities.Nodup ∧
      (∀ e, e ∈ a.entities ↔ s.Holds e c) ∧
      a.elems.kind = schema.layout.kind ∧ a.elems.size = a.size * schema.layout.width ∧
      (∀ (i : Nat) e, a.entities[i]? = some e → ∀ x : Schema, x.id = c → s.Agrees x → ∃ v : x.Value R,
        s.get x e = .ok (some v) ∧
          a.elems.slice? (i * schema.layout.width) ((i + 1) * schema.layout.width) = some (.ofValue v)) ∧
      ∀ more : List (Change R V), ∃ later, (s.applyAll more).columnArray c = .ok later ∧
        a.entities.Sublist later.entities ∧
        ((∀ event ∈ s.log more, event.recipient? c = none) → later.entities = a.entities) := by
  have hv : s.Valid := Reachable.valid ⟨changes, hs⟩
  have hpast : Roll.Recorded s.rolls ((empty : Store R V).log changes) := by
    rw [hs]
    exact (applyAll_run empty changes).recorded empty_valid Roll.recorded_nil
  obtain ⟨a, ha, rfl, hentities, hreads⟩ := hv.columnArray_reads hc
  have horder := hentities.trans (hv.entitiesWith_eq_readOrder hpast)
  have hmem : ∀ e, e ∈ a.entities ↔ s.Holds e c := fun e => by rw [hentities, hv.mem_entitiesWith_iff]
  refine ⟨a, ha, rfl, hentities, s.archetypeNames_eq.trans hpast.names, horder, hentities ▸ hv.entitiesWith_nodup, hmem,
    hreads.fits.kind, hreads.fits.size, fun i e he x hid hx => ?_, fun more => ?_⟩
  · exact hv.get_of_reads hreads he ((hmem e).1 (List.mem_of_getElem? he)) hid hx
  · have hrun := applyAll_run s more
    have hu := hrun.valid hv
    obtain ⟨later, hlater, _, hle, _⟩ := hu.columnArray_reads (hrun.schema? hv hc)
    have hlast := hle.trans (hu.entitiesWith_eq_readOrder (hrun.recorded hv hpast))
    refine ⟨later, hlater, ?_, fun hnone => ?_⟩
    · rw [horder, hlast]
      exact Event.readOrder_append_sublist _ _ _
    · rw [hlast, horder]
      exact Event.readOrder_append_of_none hnone

theorem columnArray_reads_back_grown : ∃ (s : Store Nat Tokens) (a later : ColumnArray Nat)
    (more : List (Change Nat Tokens)), s.Reachable ∧
    s.columnArray (.ofName "mass") = .ok a ∧ (s.applyAll more).columnArray (.ofName "mass") = .ok later ∧
    a.entities = [⟨0⟩, ⟨1⟩] ∧ later.entities = [⟨0⟩, ⟨2⟩, ⟨1⟩] ∧ a.entities.Sublist later.entities ∧
    a.elems.slice? 1 2 = some ⟨.f64, #[6]⟩ := by
  let mass : Schema := .scalar "mass" .f64
  let rock (n : Nat) : Bundle Nat := (Bundle.empty "rock").add mass #v[n]
  let ember : Bundle Nat := ((Bundle.empty "ember").add (.scalar "heat" .f64) #v[8]).add mass #v[6]
  let changes : List (Change Nat Tokens) := [.spawn (rock 5), .spawn ember]
  let more : List (Change Nat Tokens) := [.spawn (rock 7), .freeze, .spawn ember]
  let s : Store Nat Tokens := empty.applyAll changes
  have hc : s.schema? mass.id = some mass := by decide +kernel
  have hearly : (s.columnArray mass.id).map (·.entities) = .ok [⟨0⟩, ⟨1⟩] := by decide +kernel
  have hlate : ((s.applyAll more).columnArray mass.id).map (·.entities) = .ok [⟨0⟩, ⟨2⟩, ⟨1⟩] := by decide +kernel
  have hsix : s.get mass ⟨1⟩ = .ok (some #v[6]) := by decide +kernel
  obtain ⟨a, ha, _, _, _, _, _, _, _, _, hread, hlater⟩ :=
    columnArray_reads_back (show s = empty.applyAll changes from rfl) hc
  obtain ⟨later, hl, hsub, _⟩ := hlater more
  rw [ha] at hearly
  rw [hl] at hlate
  have hentities : a.entities = [⟨0⟩, ⟨1⟩] := Except.ok.inj hearly
  obtain ⟨v, hv, hslice⟩ := hread 1 ⟨1⟩ (by rw [hentities]; rfl) mass rfl (checkSchema_eq_ok_iff.1 (by decide +kernel))
  rw [hsix] at hv
  cases hv
  exact ⟨s, a, later, more, ⟨changes, rfl⟩, ha, hl, hentities, Except.ok.inj hlate, hsub, hslice⟩

end Store

end ColumnSim
