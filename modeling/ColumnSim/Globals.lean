import ColumnSim.System.Pipeline

namespace ColumnSim

namespace Schema

abbrev seed : Schema := .scalar "seed" .u64

abbrev tick : Schema := .scalar "tick" .u64

abbrev timeStep : Schema := .scalar "simulation_time_step" .f64

end Schema

structure Globals (R : Type) where
  seed : UInt64
  timeStep : R

namespace Globals

variable {R : Type} {V : AssetKind → Type}

def default [Scalar R] : Globals R := ⟨0, 1.0 / 120.0⟩

def bundle (g : Globals R) : Bundle R :=
  (Bundle.empty "Globals").add .seed (Schema.pack g.seed)
    |>.add .tick (Schema.pack (0 : UInt64))
    |>.add .timeStep (Schema.pack g.timeStep)

end Globals

def incrementTick {R : Type} : MapSystem R where
  name := "increment_tick"
  inputs := [.tick]
  output := .tick
  f := fun (v, _) =>
    let count : UInt64 := Schema.unpack v
    Schema.pack (count + 1)

def Store.timeStep {R : Type} {V : AssetKind → Type} (s : Store R V) : Except Error R := do
  let steps ← s.query [.timeStep]
  match steps.rows with
  | (_, v, _) :: _ => return Schema.unpack v
  | [] => throw (.unresolvedComponent Schema.timeStep.name)

end ColumnSim
