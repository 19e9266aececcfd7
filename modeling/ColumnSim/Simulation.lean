import ColumnSim.Globals
import ColumnSim.Store.Change
import ColumnSim.Store.Column
import ColumnSim.TimeStep

/-! Simulations: a store bound to a system, built once and then run tick by tick. -/

namespace ColumnSim

structure Builder (R : Type) (V : AssetKind → Type) where
  store : Store R V
  globals : Option EntityId

structure Simulation (R : Type) (V : AssetKind → Type) where
  store : Store R V
  stages : List (System R V)
  globals : EntityId
  ticks : Nat
  limit : Option Nat

namespace Builder

variable {R : Type} {V : AssetKind → Type}

def empty : Builder R V := ⟨.empty, none⟩

def spawnGlobals (b : Builder R V) (g : Globals R) : Except Error (EntityId × Builder R V) :=
  match b.globals with
  | some e => .ok (e, b)
  | none => (b.store.spawn g.bundle).map fun (e, store) => (e, ⟨store, some e⟩)

variable [Scalar R]

/-- The globals entity: the one that was spawned, else the lowest that holds a tick, else a new one. -/
def ensureGlobals (b : Builder R V) : Except Error (EntityId × Store R V) :=
  match b.globals with
  | some e => .ok (e, b.store)
  | none => do
    let holders ← b.store.query [.tick]
    match holders.entities with
    | e :: _ => return (e, b.store)
    | [] => b.store.spawn Globals.default.bundle

def checkInput (s : Store R V) (schema : Schema) : Except Error Unit :=
  if s.hasComponent schema.id then s.checkSchema schema
  else .error (.unresolvedComponent schema.name)

def setTimeStep (s : Store R V) (e : EntityId) (dt : R) : Except Error (Store R V) :=
  s.write .timeStep [e] [Schema.pack dt]

/-- The line that is logged of a build names the time step, which is read for it. -/
def logBuild (s : Store R V) (logs : Bool) : Except Error Unit :=
  if logs then s.timeStep.map fun _ => () else .ok ()

def assemble (b : Builder R V) (system : System R V) (dt : Option R) (limit : Option Nat) (logs : Bool) :
    Except Error (Simulation R V) := do
  let (globals, store) ← b.ensureGlobals
  let store ← match dt with
    | some dt => setTimeStep store globals dt
    | none => pure store
  let pipeline := System.chain [.map incrementTick, system]
  pipeline.referencedInputs.forM (checkInput store)
  logBuild store.freeze logs
  return { store := store.freeze, stages := pipeline.stages, globals, ticks := 0, limit }

def build (b : Builder R V) (system : System R V) (logs : Bool) : Except Error (Simulation R V) :=
  b.assemble system none none logs

def buildWith (b : Builder R V) (system : System R V) (dt : TimeStep R) (limit : Option Nat) (logs : Bool) :
    Except Error (Simulation R V) :=
  b.assemble system (some dt.value) limit logs

end Builder

namespace Simulation

variable {R : Type} {V : AssetKind → Type}

def finished (s : Simulation R V) : Bool := s.limit.any (· ≤ s.ticks)

def run (s : Simulation R V) (c : Client) : Outcome (Simulation R V) Unit :=
  match s.limit.filter (· ≤ s.ticks) with
  | some limit => (.error (.tickLimit limit), s)
  | none =>
    match System.runStages c s.stages s.store with
    | (.ok (), store) => (.ok (), { s with store, ticks := s.ticks + 1 })
    | (.error e, store) => (.error e, { s with store })

def runTicks (s : Simulation R V) (c : Client) : Nat → Outcome (Simulation R V) Unit
  | 0 => (.ok (), s)
  | n + 1 => (s.run c).andThen fun s => s.runTicks c n

end Simulation

end ColumnSim
