import ColumnSim.Proofs.Fold
import ColumnSim.Proofs.Leaves
import ColumnSim.Proofs.Map

namespace ColumnSim

variable {R : Type} {V : AssetKind → Type} {s u : Store R V} {schema : Schema} {error : Error} {c : Client}

lemma bind_eq_error_iff {A B : Type} {x : Except Error A} {f : A → Except Error B} :
    x >>= f = .error error ↔ x = .error error ∨ ∃ a, x = .ok a ∧ f a = .error error := by
  cases x with
  | error e => simp [bind, Except.bind]
  | ok a => simp [bind, Except.bind]

lemma exists_of_forM_eq_error {A : Type} {f : A → Except Error Unit} {xs : List A} (h : xs.forM f = .error error) :
    ∃ x ∈ xs, f x = .error error := by
  induction xs with
  | nil => cases h
  | cons x xs ih =>
    rcases bind_eq_error_iff.1 h with hx | ⟨_, _, hxs⟩
    · exact ⟨x, List.mem_cons_self .., hx⟩
    · obtain ⟨y, hm, hy⟩ := ih hxs
      exact ⟨y, List.mem_cons_of_mem _ hm, hy⟩

lemma exists_of_mapM_eq_error {A B : Type} {f : A → Except Error B} {xs : List A} (h : xs.mapM f = .error error) :
    ∃ x ∈ xs, f x = .error error := by
  induction xs with
  | nil => cases h
  | cons x xs ih =>
    rw [List.mapM_cons] at h
    rcases bind_eq_error_iff.1 h with hx | ⟨_, _, h⟩
    · exact ⟨x, List.mem_cons_self .., hx⟩
    · rcases bind_eq_error_iff.1 h with hxs | ⟨_, _, h⟩
      · obtain ⟨y, hm, hy⟩ := ih hxs
        exact ⟨y, List.mem_cons_of_mem _ hm, hy⟩
      · cases h

namespace Outcome

variable {S : Type} {a b : S} {x : Except Error S}

lemma ofStep_eq_ok_iff : ofStep a x = (.ok (), b) ↔ x = .ok b := by
  cases x with
  | error e => simp [ofStep, atomic, Except.map]
  | ok t => simp [ofStep, atomic, Except.map]

lemma ofStep_eq_error_iff : ofStep a x = (.error error, b) ↔ x = .error error ∧ b = a := by
  cases x with
  | error e => simp [ofStep, atomic, Except.map, eq_comm (a := a)]
  | ok t => simp [ofStep, atomic, Except.map]

end Outcome

namespace Store

def Rejects (s : Store R V) (schema : Schema) (error : Error) : Prop :=
  ∃ registered, s.schema? schema.id = some registered ∧ registered.layout ≠ schema.layout ∧
    error = .typeMismatch registered.name registered.layout schema.layout

lemma checkSchema_eq_error_iff : s.checkSchema schema = .error error ↔ s.Rejects schema error := by
  rw [checkSchema, Rejects]
  cases s.schema? schema.id with
  | none => simp
  | some registered =>
    by_cases h : registered.layout = schema.layout
    · simp [h]
    · simp [h, eq_comm (a := error)]

lemma exists_rejects_iff : (∃ error, s.Rejects schema error) ↔ ¬s.Agrees schema := by
  simp only [Rejects, Agrees, not_forall]
  constructor
  · rintro ⟨_, registered, hr, hl, _⟩
    exact ⟨registered, hr, hl⟩
  · rintro ⟨registered, hr, hl⟩
    exact ⟨_, registered, hr, hl, rfl⟩

lemma Refills.rejects_iff (h : s.Refills u) : u.Rejects schema error ↔ s.Rejects schema error := by
  rw [Rejects, Rejects, schema?_of_outline h.outline]

lemma rejects_of_query {inputs : List Schema} (h : s.query inputs = .error error) :
    ∃ schema ∈ inputs, s.Rejects schema error := by
  rcases bind_eq_error_iff.1 h with hcheck | ⟨_, _, h⟩
  · obtain ⟨schema, hm, hschema⟩ := exists_of_forM_eq_error hcheck
    exact ⟨schema, hm, checkSchema_eq_error_iff.1 hschema⟩
  · cases h

lemma rejects_of_graph {rel : Relation R} (h : s.graph rel = .error error) : s.Rejects rel.schema error := by
  rcases bind_eq_error_iff.1 h with hquery | ⟨_, _, h⟩
  · obtain ⟨schema, hm, hschema⟩ := rejects_of_query hquery
    rwa [List.mem_singleton.1 hm] at hschema
  · cases h

lemma write_eq_error {es : List EntityId} {vs : List (schema.Value R)} (hlen : es.length = vs.length)
    (hes : ∀ e ∈ es, s.entities.contains e = true) (h : s.write schema es vs = .error error) :
    s.Rejects schema error ∨ ∃ e ∈ es, s.locate? e schema.id = none ∧ error = .missingOutput e schema.name := by
  rw [write, if_neg (not_not.2 hlen)] at h
  rcases bind_eq_error_iff.1 h with hcheck | ⟨_, _, h⟩
  · exact .inl (checkSchema_eq_error_iff.1 hcheck)
  rcases bind_eq_error_iff.1 h with htargets | ⟨_, _, h⟩
  · obtain ⟨e, he, htarget⟩ := exists_of_mapM_eq_error htargets
    rw [target, if_pos (hes e he)] at htarget
    cases hl : s.locate? e schema.id with
    | none =>
      rw [hl] at htarget
      cases htarget
      exact .inr ⟨e, he, hl, rfl⟩
    | some p =>
      rw [hl] at htarget
      cases htarget
  · cases h

def Attempt (s : Store R V) (reads : List Schema) (output : Schema) (x : Except Error (Store R V)) : Prop :=
  (∃ error, (∃ schema ∈ reads, s.Rejects schema error) ∧ x = .error error) ∨
    ∃ entries : List (EntityId × output.Value R), (∀ entry ∈ entries, s.entities.contains entry.1 = true) ∧
      x = (ColumnWrite.ofEntries entries).apply s

namespace Attempt

variable {reads : List Schema} {output : Schema}

lemma eq_or_write (h : s.Attempt reads output (.ok u)) :
    u = s ∨ ∃ es vs, s.write output es vs = .ok u := by
  rcases h with ⟨_, _, h⟩ | ⟨entries, _, h⟩
  · cases h
  · rw [ColumnWrite.apply] at h
    split at h
    · cases h
      exact .inl rfl
    · exact .inr ⟨_, _, h.symm⟩

lemma rejects_or_missing (h : s.Attempt reads output (.error error)) :
    (∃ schema ∈ reads, s.Rejects schema error) ∨ s.Rejects output error ∨
      ∃ e, s.locate? e output.id = none ∧ error = .missingOutput e output.name := by
  rcases h with ⟨_, hr, h⟩ | ⟨entries, hspawned, h⟩
  · cases h
    exact .inl hr
  · rw [ColumnWrite.apply] at h
    split at h
    · cases h
    · have hes : ∀ e ∈ (ColumnWrite.ofEntries entries).entities, s.entities.contains e = true := by
        intro e he
        obtain ⟨entry, hm, rfl⟩ := List.mem_map.1 he
        exact hspawned entry hm
      rcases write_eq_error ColumnWrite.length_ofEntries hes h.symm with hr | ⟨e, _, hl, he⟩
      · exact .inr (.inl hr)
      · exact .inr (.inr ⟨e, hl, he⟩)

end Attempt

end Store

lemma MapSystem.attempt (hs : s.Valid) (m : MapSystem R) (c : Client) :
    s.Attempt m.inputs m.output (m.apply c s) := by
  rw [apply]
  cases hq : m.evaluate c s with
  | error error =>
    rcases bind_eq_error_iff.1 hq with hq | ⟨_, _, hq⟩
    · exact .inl ⟨error, Store.rejects_of_query hq, rfl⟩
    · cases hq
  | ok w =>
    obtain ⟨q, hq, h⟩ := bind_eq_ok_iff.1 hq
    obtain ⟨ha, rfl⟩ := Store.agrees_of_query hq
    cases h
    refine .inr ⟨m.entries s, fun entry hm => ?_, ?_⟩
    · obtain ⟨matched, hmatched, rfl⟩ := List.mem_map.1 hm
      exact hs.spawned_of_matched? ha ((hs.mem_join_iff_matched? ha).1 hmatched)
    · rw [← results_eq_ofEntries, ← apply_eq ha, apply, hq]

lemma FoldSystem.attempt (hs : s.Valid) (f : FoldSystem R) (c : Client) :
    s.Attempt (f.relation.schema :: f.left ++ f.right) f.output (f.apply c s) := by
  rw [apply]
  cases hf : f.evaluate c s with
  | error error =>
    refine .inl ⟨error, ?_, rfl⟩
    rcases bind_eq_error_iff.1 hf with hg | ⟨_, _, hf⟩
    · exact ⟨_, List.mem_cons_self .., Store.rejects_of_graph hg⟩
    rcases bind_eq_error_iff.1 hf with hl | ⟨_, _, hf⟩
    · obtain ⟨schema, hm, hr⟩ := Store.rejects_of_query hl
      exact ⟨schema, List.mem_append_left _ (List.mem_cons_of_mem _ hm), hr⟩
    rcases bind_eq_error_iff.1 hf with hr | ⟨_, _, hf⟩
    · obtain ⟨schema, hm, hr⟩ := Store.rejects_of_query hr
      exact ⟨schema, List.mem_append_right _ hm, hr⟩
    · cases hf
  | ok w =>
    obtain ⟨g, hg, h⟩ := bind_eq_ok_iff.1 hf
    obtain ⟨l, hl, h⟩ := bind_eq_ok_iff.1 h
    obtain ⟨r, hr, h⟩ := bind_eq_ok_iff.1 h
    obtain ⟨hleft, rfl⟩ := Store.agrees_of_query hl
    obtain ⟨hright, rfl⟩ := Store.agrees_of_query hr
    cases h
    refine .inr ⟨f.entries s g.links, fun entry hm => ?_, ?_⟩
    · obtain ⟨row, hrow, _⟩ := (hs.mem_fold_entries_iff hleft hright).1 hm
      exact hs.spawned_of_matched? hleft hrow
    · rw [← fold_eq_ofEntries]
      rfl

namespace Leaf

def Plain : Leaf R V → Prop
  | map _ => True
  | fold _ => True
  | procedure _ => False

def reads : Leaf R V → List Schema
  | map m => m.inputs
  | fold f => f.relation.schema :: f.left ++ f.right
  | procedure p => p.inputs

def Clashes (l : Leaf R V) (s : Store R V) (error : Error) : Prop :=
  ∃ schema ∈ l.reads ++ l.system.effects, s.Rejects schema error

def Lacks (l : Leaf R V) (s : Store R V) (error : Error) : Prop :=
  ∃ output ∈ l.system.effects, ∃ e, ¬s.Holds e output.id ∧ error = .missingOutput e output.name

variable {l : Leaf R V}

lemma Plain.run_eq (hl : l.Plain) (hs : s.Valid) (c : Client) : ∃ x output,
    System.run c l.system s = .ofStep s x ∧ l.system.effects = [output] ∧ s.Attempt l.reads output x := by
  cases l with
  | map m => exact ⟨m.apply c s, m.output, rfl, rfl, m.attempt hs c⟩
  | fold f => exact ⟨f.apply c s, f.output, rfl, rfl, f.attempt hs c⟩
  | procedure p => exact hl.elim

lemma Plain.eq_of_error (hl : l.Plain) (h : System.run c l.system s = (.error error, u)) : u = s := by
  cases l with
  | map m => exact (Outcome.ofStep_eq_error_iff.1 h).2
  | fold f => exact (Outcome.ofStep_eq_error_iff.1 h).2
  | procedure p => exact hl.elim

lemma Plain.run_error (hl : l.Plain) (hs : s.Valid) (h : System.run c l.system s = (.error error, u)) :
    l.Lacks s error ∨ l.Clashes s error := by
  obtain ⟨x, output, hrun, heffects, hattempt⟩ := hl.run_eq hs c
  rw [hrun] at h
  obtain ⟨rfl, _⟩ := Outcome.ofStep_eq_error_iff.1 h
  rw [Lacks, Clashes, heffects]
  rcases hattempt.rejects_or_missing with ⟨schema, hm, hr⟩ | hr | ⟨e, hlocate, he⟩
  · exact .inr ⟨schema, List.mem_append_left _ hm, hr⟩
  · exact .inr ⟨output, by simp, hr⟩
  · refine .inl ⟨output, List.mem_singleton.2 rfl, e, fun hh => ?_, he⟩
    obtain ⟨p, hp⟩ := hs.holds_iff.1 hh
    rw [hlocate] at hp
    cases hp

lemma Plain.run_ok (hl : l.Plain) (hs : s.Valid) (h : System.run c l.system s = (.ok (), u)) :
    u = s ∨ ∃ output ∈ l.system.effects, ∃ es vs, s.write output es vs = .ok u := by
  obtain ⟨x, output, hrun, heffects, hattempt⟩ := hl.run_eq hs c
  rw [hrun] at h
  obtain rfl := Outcome.ofStep_eq_ok_iff.1 h
  exact hattempt.eq_or_write.imp_right fun hw => ⟨output, heffects ▸ List.mem_singleton.2 rfl, hw⟩

end Leaf

end ColumnSim
