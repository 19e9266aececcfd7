import ColumnSim.Proofs.Description
import ColumnSim.Proofs.Tick
import ColumnSim.Spatial.Body

/-! Rejected layouts: an error that shows the layout found in the place of the expected one shows two texts. -/

namespace ColumnSim

variable {R A B S : Type}

/-- If `x` rejects a layout, its text is not the one of the layout that was expected. -/
def Tells (x : Except Error A) : Prop :=
  ∀ component expected found, x = .error (.typeMismatch component expected found) →
    expected.describe ≠ found.describe

namespace Tells

variable {x : Except Error A} {f : A → Except Error B} {xs : List A}

lemma ok (a : A) : Tells (.ok a) := by
  intro _ _ _ h
  cases h

lemma error {error : Error} (h : ∀ component expected found, error ≠ .typeMismatch component expected found) :
    Tells (.error error : Except Error A) := by
  intro component expected found heq
  exact absurd (Except.error.inj heq) (h component expected found)

lemma of_error {error : Error} (hx : Tells x) (h : x = .error error) : Tells (.error error : Except Error B) := by
  intro component expected found heq
  cases heq
  exact hx _ _ _ h

lemma bind (hx : Tells x) (hf : ∀ a, Tells (f a)) : Tells (x >>= f) := by
  intro component expected found h
  rcases bind_eq_error_iff.1 h with h | ⟨a, _, h⟩
  · exact hx _ _ _ h
  · exact hf a _ _ _ h

lemma map (hx : Tells x) (f : A → B) : Tells (x.map f) := by
  cases x with
  | error error => exact hx.of_error rfl
  | ok a => exact ok (f a)

lemma forM {f : A → Except Error Unit} (h : ∀ a, Tells (f a)) : Tells (xs.forM f) := by
  intro component expected found herror
  obtain ⟨a, _, ha⟩ := exists_of_forM_eq_error herror
  exact h a _ _ _ ha

lemma mapM (h : ∀ a, Tells (f a)) : Tells (xs.mapM f) := by
  intro component expected found herror
  obtain ⟨a, _, ha⟩ := exists_of_mapM_eq_error herror
  exact h a _ _ _ ha

lemma atomic {s : S} {x : Except Error (A × S)} (hx : Tells x) : Tells (Outcome.atomic s x).1 := by
  cases x with
  | error error => exact hx.of_error rfl
  | ok p => exact ok p.1

lemma inOrder {f : A → S → Outcome S Unit} (h : ∀ a ∈ xs, ∀ s, Tells (f a s).1) (s : S) :
    Tells (Outcome.inOrder (xs.map f) s).1 := by
  intro component expected found herror
  obtain ⟨front, a, back, t, rfl, _, ha⟩ := Outcome.inOrder_eq_error (Prod.ext herror rfl)
  exact h a (by simp) t _ _ _ (congrArg Prod.fst ha)

end Tells

namespace Buffer

variable {b : Buffer R} {l : Layout}

lemma describe_layout (b : Buffer R) : b.layout.describe = b.kind.name ++ "[" ++ toString b.size ++ "]" := by
  simp [layout, Layout.describe]

lemma fits_layout (b : Buffer R) : b.Fits b.layout := ⟨rfl, rfl⟩

lemma value?_eq_none (h : ¬b.Fits l) : b.value? l = none := by
  obtain ⟨k, xs⟩ := b
  rw [value?]
  by_cases hk : k = l.kind
  · subst hk
    rw [view_self]
    exact dif_neg fun hsize => h ⟨rfl, hsize⟩
  · rw [view, dif_neg hk]

end Buffer

namespace ComponentValue

variable {schema : Schema} {b : Buffer R}

lemma exists_ofBuffer (h : b.Fits schema.layout) : ∃ v, ofBuffer schema b = .ok v := by
  obtain ⟨v, rfl⟩ := h.eq_ofValue
  exact ⟨⟨schema, v⟩, by rw [ofBuffer, Buffer.value?_ofValue]⟩

lemma ofBuffer_eq_error (h : ¬b.Fits schema.layout) :
    ofBuffer schema b = .error (.typeMismatch schema.name schema.layout b.layout) := by
  rw [ofBuffer, Buffer.value?_eq_none h]

lemma describe_ne_of_not_fits (h : ¬b.Fits schema.layout) : schema.layout.describe ≠ b.layout.describe :=
  fun htext => h (Layout.describe_injective htext ▸ b.fits_layout)

end ComponentValue

lemma Bundle.tells_validate (b : Bundle R) : Tells b.validate := by
  rw [validate]
  split
  · exact .error (by simp)
  · exact .ok ()

namespace Store

variable (s : Store R V)

lemma checkSchema_eq {schema registered : Schema} (h : s.schema? schema.id = some registered) :
    s.checkSchema schema = if registered.layout.describe = schema.layout.describe then .ok ()
      else .error (.typeMismatch registered.name registered.layout schema.layout) := by
  rw [checkSchema, h]
  simp only [Layout.describe_injective.eq_iff]

lemma tells_checkSchema (schema : Schema) : Tells (s.checkSchema schema) := by
  intro component expected found h
  obtain ⟨registered, _, hlayout, heq⟩ := checkSchema_eq_error_iff.1 h
  cases heq
  exact Layout.describe_injective.ne hlayout

lemma tells_get (schema : Schema) (e : EntityId) : Tells (s.get schema e) :=
  (s.tells_checkSchema schema).bind fun _ => .ok _

lemma tells_query (inputs : List Schema) : Tells (s.query inputs) :=
  (Tells.forM s.tells_checkSchema).bind fun _ => .ok _

lemma tells_graph (rel : Relation R) : Tells (s.graph rel) := (s.tells_query _).bind fun _ => .ok _

lemma tells_bodyState (e : EntityId) : Tells (s.bodyState e) := by
  refine (s.tells_get _ e).bind fun _ => (s.tells_get _ e).bind fun _ => (s.tells_get _ e).bind fun _ =>
    (s.tells_get _ e).bind fun _ => (s.tells_get _ e).bind fun _ => ?_
  split
  · exact .ok _
  · exact .ok _

lemma tells_columnArray (c : ComponentId) : Tells (s.columnArray c) := by
  rw [columnArray]
  split
  · exact .error (by simp)
  · exact .ok _

lemma tells_timeStep : Tells s.timeStep := by
  refine (s.tells_query _).bind fun steps => ?_
  split
  · exact .ok _
  · exact .error (by simp)

lemma tells_checkValue (target : Option EntityId) (v : ComponentValue R) : Tells (s.checkValue target v) := by
  refine (s.tells_checkSchema v.schema).bind fun _ => ?_
  cases target with
  | none => exact .ok ()
  | some e =>
    dsimp only
    split
    · exact .error (by simp)
    · exact .ok ()

lemma tells_checkArchetype (b : Bundle R) : Tells (s.checkArchetype b) := by
  rw [checkArchetype]
  split
  · split
    · exact .ok ()
    · exact .error (by simp)
  · exact .ok ()

lemma tells_check (target : Option EntityId) (b : Bundle R) : Tells (s.check target b) := by
  rw [check]
  split
  · exact .error (by simp)
  · exact b.tells_validate.bind fun _ => (Tells.forM (s.tells_checkValue target)).bind fun _ => s.tells_checkArchetype b

lemma tells_spawn (b : Bundle R) : Tells (s.spawn b) := (s.tells_check none b).bind fun _ => .ok _

lemma tells_spawnBatch (bs : List (Bundle R)) : Tells (s.spawnBatch bs).1 := by
  induction bs generalizing s with
  | nil => exact .ok _
  | cons b bs ih =>
    rw [spawnBatch]
    split
    · rename_i error h
      exact (s.tells_spawn b).of_error h
    · rename_i e u _
      split
      · exact .ok _
      · rename_i error v h
        exact (ih u).of_error (congrArg Prod.fst h)

lemma tells_attach (e : EntityId) (b : Bundle R) : Tells (s.attach e b) := by
  rw [attach]
  split
  · exact .error (by simp)
  · exact (s.tells_check (some e) b).bind fun _ => .ok _

lemma tells_target (schema : Schema) (e : EntityId) : Tells (s.target schema e) := by
  rw [target]
  split
  · split
    · exact .ok _
    · exact .error (by simp)
  · exact .error (by simp)

lemma tells_write (schema : Schema) (es : List EntityId) (vs : List (schema.Value R)) :
    Tells (s.write schema es vs) := by
  rw [write]
  split
  · exact .error (by simp)
  · exact (s.tells_checkSchema schema).bind fun _ => (Tells.mapM (s.tells_target schema)).bind fun _ => .ok _

lemma tells_apply (change : Change R V) : Tells (s.apply change).1 := by
  cases change with
  | spawn b => exact ((s.tells_spawn b).map _).atomic
  | spawnNamed b name => exact (((s.tells_spawn b).bind fun _ => .ok _).map _).atomic
  | spawnBatch bs => exact (s.tells_spawnBatch bs).map _
  | attach e b => exact ((s.tells_attach e b).map _).atomic
  | write schema es vs => exact ((s.tells_write schema es vs).map _).atomic
  | insertAsset kind content => exact .ok _
  | freeze => exact .ok _

end Store

lemma ColumnWrite.tells_apply {output : Schema} (w : ColumnWrite R output) (s : Store R V) : Tells (w.apply s) := by
  rw [apply]
  split
  · exact .ok s
  · exact s.tells_write output w.entities w.values

namespace System

def Tells (system : System R V) : Prop :=
  ∀ p, .procedure p ∈ system.leaves → ∀ (c : Client) (s : Store R V), ColumnSim.Tells (p.body c s).1

variable {system : System R V}

lemma Tells.run (h : system.Tells) (c : Client) (s : Store R V) : ColumnSim.Tells (run c system s).1 := by
  rw [run_eq_leaves]
  refine .inOrder (fun l hl t => ?_) s
  cases l with
  | map m =>
    have hread := (t.tells_query m.inputs).bind fun q => ColumnSim.Tells.ok (q.map c m.f)
    exact ((hread.bind fun w => w.tells_apply t).map _).atomic
  | fold f =>
    have hread := (t.tells_graph f.relation).bind fun g => (t.tells_query f.left).bind fun l =>
      (t.tells_query f.right).bind fun r => ColumnSim.Tells.ok (g.fold c l r f.start f.step)
    exact ((hread.bind fun w => w.tells_apply t).map _).atomic
  | procedure p => exact h p hl c t

end System

namespace Simulation

variable {sim : Simulation R V}

lemma tells_run (h : (System.pipeline sim.stages).Tells) (c : Client) : Tells (sim.run c).1 := by
  intro component expected found herror
  rcases run_eq_error (Prod.ext herror rfl) with ⟨_, _, _, hlimit, _⟩ | ⟨store, hstages, _⟩
  · cases hlimit
  · exact h.run c sim.store _ _ _ (congrArg Prod.fst hstages)

lemma stages_run (sim : Simulation R V) (c : Client) : (sim.run c).2.stages = sim.stages := by
  rcases sim.run_eq_or c with h | ⟨_, h⟩
  · rw [h]
  · rw [h]

lemma tells_runTicks (h : (System.pipeline sim.stages).Tells) (c : Client) (n : Nat) : Tells (sim.runTicks c n).1 := by
  induction n generalizing sim with
  | zero => exact .ok ()
  | succ n ih =>
    have hrest : Tells ((sim.run c).2.runTicks c n).1 := ih (by rwa [stages_run])
    rw [runTicks]
    rcases hrun : sim.run c with ⟨error | _, after⟩
    · exact (tells_run h c).of_error (congrArg Prod.fst hrun)
    · rw [hrun] at hrest
      exact hrest

end Simulation

namespace Builder

variable (b : Builder R V)

lemma tells_spawnGlobals (g : Globals R) : Tells (b.spawnGlobals g) := by
  rw [spawnGlobals]
  split
  · exact .ok _
  · exact (b.store.tells_spawn _).map _

lemma tells_checkInput (s : Store R V) (schema : Schema) : Tells (checkInput s schema) := by
  rw [checkInput]
  split
  · exact s.tells_checkSchema schema
  · exact .error (by simp)

lemma tells_logBuild (s : Store R V) (logs : Bool) : Tells (logBuild s logs) := by
  rw [logBuild]
  split
  · exact s.tells_timeStep.map _
  · exact .ok ()

variable [Scalar R]

lemma tells_ensureGlobals : Tells b.ensureGlobals := by
  rw [ensureGlobals]
  split
  · exact .ok _
  · refine (b.store.tells_query _).bind fun holders => ?_
    split
    · exact .ok _
    · exact b.store.tells_spawn _

lemma tells_assemble (system : System R V) (dt : Option R) (limit : Option Nat) (logs : Bool) :
    Tells (b.assemble system dt limit logs) := by
  refine b.tells_ensureGlobals.bind fun (e, s) => ?_
  have hcheck (u : Store R V) :
      Tells ((System.chain [.map incrementTick, system]).referencedInputs.forM (checkInput u)) :=
    .forM (tells_checkInput u)
  cases dt with
  | none => exact (hcheck s).bind fun _ => (tells_logBuild s.freeze logs).bind fun _ => .ok _
  | some dt =>
    exact (s.tells_write _ _ _).bind fun u => (hcheck u).bind fun _ =>
      (tells_logBuild u.freeze logs).bind fun _ => .ok _

end Builder

/-- Two schemas have one description exactly if they have one layout. So an error that rejects a layout describes what
was found in other words than what was expected: where a schema is checked against the registered one, where a value is
made of a buffer, and in every operation that passes such an error on. Procedures may fail with errors of their own. -/
theorem rejections_tell [Scalar R] :
    (∀ a b : Schema, a.layout.describe = b.layout.describe ↔ a.layout = b.layout) ∧
    (∀ (s : Store R V) (schema registered : Schema), s.schema? schema.id = some registered →
      s.checkSchema schema = if registered.layout.describe = schema.layout.describe then .ok ()
        else .error (.typeMismatch registered.name registered.layout schema.layout)) ∧
    (∀ (schema : Schema) (b : Buffer R), (b.Fits schema.layout → ∃ v, ComponentValue.ofBuffer schema b = .ok v) ∧
      (¬b.Fits schema.layout →
        ComponentValue.ofBuffer schema b = .error (.typeMismatch schema.name schema.layout b.layout) ∧
        b.layout.describe = b.kind.name ++ "[" ++ toString b.size ++ "]" ∧
        schema.layout.describe ≠ b.layout.describe)) ∧
    (∀ s : Store R V, (∀ change, Tells (s.apply change).1) ∧ (∀ schema e, Tells (s.get schema e)) ∧
      (∀ c, Tells (s.columnArray c)) ∧ (∀ inputs, Tells (s.query inputs)) ∧ (∀ rel, Tells (s.graph rel)) ∧
      Tells s.timeStep ∧ (∀ e, Tells (s.bodyState e)) ∧
      ∀ (system : System R V) c, system.Tells → Tells (System.run c system s).1) ∧
    (∀ b : Builder R V, (∀ g, Tells (b.spawnGlobals g)) ∧
      ∀ system logs, Tells (b.build system logs) ∧ ∀ dt limit, Tells (b.buildWith system dt limit logs)) ∧
    ∀ (sim : Simulation R V) c, (System.pipeline sim.stages).Tells →
      Tells (sim.run c).1 ∧ ∀ n, Tells (sim.runTicks c n).1 := by
  refine ⟨fun a b => Layout.describe_injective.eq_iff, fun s schema registered h => s.checkSchema_eq h,
    fun schema b => ⟨ComponentValue.exists_ofBuffer, fun h => ?_⟩, fun s => ?_, fun b => ?_, fun sim c h => ?_⟩
  · exact ⟨ComponentValue.ofBuffer_eq_error h, b.describe_layout, ComponentValue.describe_ne_of_not_fits h⟩
  · exact ⟨s.tells_apply, s.tells_get, s.tells_columnArray, s.tells_query, s.tells_graph, s.tells_timeStep,
      s.tells_bodyState, fun system c h => h.run c s⟩
  · exact ⟨b.tells_spawnGlobals, fun system logs =>
      ⟨b.tells_assemble system none none logs, fun dt limit => b.tells_assemble system (some dt.value) limit logs⟩⟩
  · exact ⟨Simulation.tells_run h c, Simulation.tells_runTicks h c⟩

theorem rejections_tell_narrow : ∃ (spin heat narrow : Schema) (elems : Buffer Float) (b : Builder Float Tokens)
    (system : System Float Tokens) (sim : Simulation Float Tokens), ¬elems.Fits spin.layout ∧
    ComponentValue.ofBuffer spin elems = .error (.typeMismatch "spin" ⟨.f64, [2, 3]⟩ ⟨.f64, [23]⟩) ∧
    (⟨.f64, [2, 3]⟩ : Layout).describe ≠ (⟨.f64, [23]⟩ : Layout).describe ∧
    b.store.schema? narrow.id = some heat ∧
    b.store.checkSchema narrow = .error (.typeMismatch "heat" ⟨.f64, []⟩ ⟨.f32, []⟩) ∧
    b.build system false = .ok sim ∧ system.Tells ∧ (System.pipeline sim.stages).Tells ∧
    (System.run .default system b.store).1 = .error (.typeMismatch "heat" ⟨.f64, []⟩ ⟨.f32, []⟩) ∧
    (sim.run .default).1 = .error (.typeMismatch "heat" ⟨.f64, []⟩ ⟨.f32, []⟩) ∧
    (⟨.f64, []⟩ : Layout).describe ≠ (⟨.f32, []⟩ : Layout).describe := by
  let spin : Schema := ⟨"spin", .f64, [2, 3]⟩
  let elems : Buffer Float := ⟨.f64, Array.replicate 23 0⟩
  let heat : Schema := .scalar "heat" .f64
  let narrow : Schema := .scalar "heat" .f32
  let rock : Bundle Float := (Bundle.empty "rock").add heat #v[1]
  let changes : List (Change Float Tokens) := [.spawn rock]
  let b : Builder Float Tokens := ⟨Store.empty.applyAll changes, none⟩
  let system : System Float Tokens := .map ⟨"narrow", [heat], narrow, fun _ => #v[2]⟩
  have hfits : ¬elems.Fits spin.layout := fun h => absurd h.2 (by decide)
  have hregistered : b.store.schema? narrow.id = some heat := by decide +kernel
  have hrun : (b.build system false).map (fun sim => (sim.run .default).1) =
      .ok (.error (.typeMismatch "heat" ⟨.f64, []⟩ ⟨.f32, []⟩)) := by decide +kernel
  have halone : (System.run .default system b.store).1 = .error (.typeMismatch "heat" ⟨.f64, []⟩ ⟨.f32, []⟩) := by
    decide +kernel
  obtain ⟨sim, hbuild, herror⟩ := map_eq_ok_iff.1 hrun
  have hs : b.store.Reachable := ⟨changes, rfl⟩
  obtain ⟨_, _, _, _, ha⟩ := Builder.exists_assembles_of_built hs.valid (.inl hbuild)
  have hsystem : system.Tells := fun p hm => by cases List.mem_singleton.1 hm
  have hstages : (System.pipeline sim.stages).Tells := by
    intro p hm
    rw [ha.stages] at hm
    rcases List.mem_pair.1 hm with hp | hp
    · cases hp
    · cases hp
  obtain ⟨_, hcheck, hbuffer, hstore, _, hsim⟩ := rejections_tell (R := Float) (V := Tokens)
  obtain ⟨hrejected, _, htexts⟩ := (hbuffer spin elems).2 hfits
  obtain ⟨_, _, _, _, _, _, _, hsystems⟩ := hstore b.store
  have hnarrow := hcheck b.store narrow heat hregistered
  rw [if_neg (hsystems system .default hsystem _ _ _ halone)] at hnarrow
  exact ⟨spin, heat, narrow, elems, b, system, sim, hfits, hrejected, htexts, hregistered, hnarrow, hbuild, hsystem,
    hstages, halone, herror, (hsim sim .default hstages).1 _ _ _ herror⟩

end ColumnSim
