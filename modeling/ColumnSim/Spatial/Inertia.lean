import ColumnSim.Spatial.Motion

/-! Inertia: how a body answers to a wrench, its energy and its angular momentum. -/

namespace ColumnSim

structure Inertia (R : Type) where
  mass : R
  moments : Vec3 R

namespace Inertia

variable {R : Type}

def toVector (i : Inertia R) : Vector R 4 := #v[i.mass, i.moments.x, i.moments.y, i.moments.z]

def ofVector (v : Vector R 4) : Inertia R := ⟨v[0], ⟨v[1], v[2], v[3]⟩⟩

variable [Scalar R]

def ofMassWith (mass : R) (unit : Vec3 R) : Inertia R := ⟨mass, unit.scale mass⟩

def ofMass (mass : R) : Inertia R := ofMassWith mass ⟨1.0, 1.0, 1.0⟩

def unit : Inertia R := ofMass 1.0

def blocks (x : R) : Bool := Scalar.less (Scalar.abs x) 1e-10

def quotient (n d : R) : R := if blocks d then 0.0 else n / d

def immovable (i : Inertia R) : Bool := blocks i.mass

/-- The equations of a rigid body, with the gyroscopic term, solved for the acceleration. -/
def accelerate (i : Inertia R) (p : Pose R) (m : Motion R) (w : Wrench R) : Motion R :=
  let spin := p.toBody m.angular
  let torque := p.toBody w.torque
  let net := torque - spin.cross (i.moments.times spin)
  let alpha : Vec3 R :=
    ⟨quotient net.x i.moments.x, quotient net.y i.moments.y, quotient net.z i.moments.z⟩
  ⟨p.toWorld alpha, if i.immovable then .zero else w.force.divide i.mass⟩

def kineticEnergy (i : Inertia R) (p : Pose R) (m : Motion R) : R :=
  let spin := p.toBody m.angular
  (if i.immovable then 0.0 else 0.5 * i.mass * m.linear.lengthSquared) +
    0.5 * spin.dot (i.moments.times spin)

def angularMomentum (i : Inertia R) (p : Pose R) (m : Motion R) : Vec3 R :=
  p.toWorld (i.moments.times (p.toBody m.angular))

end Inertia

end ColumnSim
