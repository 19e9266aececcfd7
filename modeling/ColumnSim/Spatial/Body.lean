import ColumnSim.Archetype.Bundle
import ColumnSim.Spatial.Inertia
import ColumnSim.Store.Basic

namespace ColumnSim

namespace Schema

abbrev worldPos : Schema := ⟨"world_pos", .f64, [7]⟩

abbrev worldVel : Schema := ⟨"world_vel", .f64, [6]⟩

abbrev worldAccel : Schema := ⟨"world_accel", .f64, [6]⟩

abbrev force : Schema := ⟨"force", .f64, [6]⟩

abbrev inertia : Schema := ⟨"inertia", .f64, [4]⟩

end Schema

structure Body (R : Type) where
  pose : Pose R
  velocity : Motion R
  inertia : Inertia R

namespace Body

variable {R : Type} {V : AssetKind → Type} [Scalar R]

def atRest (i : Inertia R) : Body R := ⟨.origin, .zero, i⟩

def bundle (b : Body R) : Bundle R :=
  (Bundle.empty "Body").add .worldPos b.pose.toVector
    |>.add .worldVel b.velocity.toVector
    |>.add .worldAccel (Motion.zero (R := R)).toVector
    |>.add .force (Wrench.zero (R := R)).toVector
    |>.add .inertia b.inertia.toVector

end Body

structure BodyState (R : Type) where
  pose : Pose R
  velocity : Motion R
  inertia : Inertia R
  acceleration : Motion R
  force : Wrench R

def Store.bodyState {R : Type} {V : AssetKind → Type} (s : Store R V) (e : EntityId) :
    Except Error (Option (BodyState R)) := do
  let pose ← s.get .worldPos e
  let velocity ← s.get .worldVel e
  let inertia ← s.get .inertia e
  let acceleration ← s.get .worldAccel e
  let force ← s.get .force e
  match pose, velocity, inertia, acceleration, force with
  | some p, some v, some i, some a, some f =>
    return some ⟨.ofVector p, .ofVector v, .ofVector i, .ofVector a, .ofVector f⟩
  | _, _, _, _, _ => return none

end ColumnSim
