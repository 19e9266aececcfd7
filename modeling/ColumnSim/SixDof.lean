import ColumnSim.Globals
import ColumnSim.Spatial.Body
import ColumnSim.TimeStep

/-! Integration of rigid bodies with six degrees of freedom, by the semi-implicit rule. -/

namespace ColumnSim

structure Integrator (R : Type) where
  name : String
  inputs : List Schema
  output : Schema
  f : R → Row R inputs → output.Value R

namespace Integrator

variable {R : Type} {V : AssetKind → Type}

def withStep (i : Integrator R) (dt : R) : MapSystem R := ⟨i.name, i.inputs, i.output, i.f dt⟩

def fixed (i : Integrator R) (dt : R) : System R V := .map (i.withStep dt)

def fromGlobals (i : Integrator R) : System R V :=
  .procedure {
    name := i.name
    inputs := i.inputs ++ [.timeStep]
    outputs := [i.output]
    body := fun c s => .ofStep s do
      let dt ← s.timeStep
      (i.withStep dt).apply c s }

def forStep (i : Integrator R) : Option R → System R V
  | some dt => i.fixed dt
  | none => i.fromGlobals

end Integrator

variable {R : Type} {V : AssetKind → Type} [Scalar R]

def integrateVelocity : Integrator R where
  name := "integrate_velocity"
  inputs := [.worldVel, .worldAccel]
  output := .worldVel
  f dt := fun (vel, accel, _) => ((Motion.ofVector vel).integrate (.ofVector accel) dt).toVector

def integratePosition : Integrator R where
  name := "integrate_position"
  inputs := [.worldPos, .worldVel]
  output := .worldPos
  f dt := fun (pos, vel, _) => ((Pose.ofVector pos).integrate (.ofVector vel) dt).toVector

def clearForces : System R V :=
  .map ⟨"clear_forces", [.force], .force, fun _ => (Wrench.zero (R := R)).toVector⟩

def accelerate : System R V :=
  .map ⟨"accelerate", [.worldPos, .worldVel, .inertia, .force], .worldAccel,
    fun (pos, vel, inertia, force, _) =>
      ((Inertia.ofVector inertia).accelerate (.ofVector pos) (.ofVector vel) (.ofVector force)).toVector⟩

/-- An integrator of bodies. Without a step of its own it takes that of the globals. -/
structure SixDof (R : Type) (V : AssetKind → Type) [Scalar R] where
  step : Option (TimeStep R)
  effector : Option (System R V)

namespace SixDof

def system (d : SixDof R V) : System R V :=
  let dt := d.step.map (·.value)
  .chain ([clearForces] ++ d.effector.toList ++
    [accelerate, integrateVelocity.forStep dt, integratePosition.forStep dt])

def warning? (d : SixDof R V) : Option StepWarning := d.step.bind (·.warning?)

end SixDof

end ColumnSim
