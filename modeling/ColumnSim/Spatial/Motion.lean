import ColumnSim.Spatial.Quaternion

/-! Poses, motions and wrenches: pairs of an angular and a linear part, packed with the angular part first. -/

namespace ColumnSim

variable {R : Type}

structure Motion (R : Type) where
  angular : Vec3 R
  linear : Vec3 R

structure Wrench (R : Type) where
  torque : Vec3 R
  force : Vec3 R

structure Pose (R : Type) where
  orientation : Quaternion R
  position : Vec3 R

namespace Motion

def toVector (m : Motion R) : Vector R 6 :=
  #v[m.angular.x, m.angular.y, m.angular.z, m.linear.x, m.linear.y, m.linear.z]

def ofVector (v : Vector R 6) : Motion R := ⟨⟨v[0], v[1], v[2]⟩, ⟨v[3], v[4], v[5]⟩⟩

variable [Scalar R]

def zero : Motion R := ⟨.zero, .zero⟩

def ofLinear (linear : Vec3 R) : Motion R := ⟨.zero, linear⟩

def ofAngular (angular : Vec3 R) : Motion R := ⟨angular, .zero⟩

def integrate (m accel : Motion R) (dt : R) : Motion R :=
  ⟨m.angular + accel.angular.scale dt, m.linear + accel.linear.scale dt⟩

end Motion

namespace Wrench

def toVector (w : Wrench R) : Vector R 6 :=
  #v[w.torque.x, w.torque.y, w.torque.z, w.force.x, w.force.y, w.force.z]

def ofVector (v : Vector R 6) : Wrench R := ⟨⟨v[0], v[1], v[2]⟩, ⟨v[3], v[4], v[5]⟩⟩

variable [Scalar R]

def zero : Wrench R := ⟨.zero, .zero⟩

def ofForce (force : Vec3 R) : Wrench R := ⟨.zero, force⟩

def ofTorque (torque : Vec3 R) : Wrench R := ⟨torque, .zero⟩

instance : Add (Wrench R) := ⟨fun v w => ⟨v.torque + w.torque, v.force + w.force⟩⟩

end Wrench

namespace Pose

def toVector (p : Pose R) : Vector R 7 :=
  #v[p.orientation.x, p.orientation.y, p.orientation.z, p.orientation.w,
    p.position.x, p.position.y, p.position.z]

def ofVector (v : Vector R 7) : Pose R := ⟨⟨v[0], v[1], v[2], v[3]⟩, ⟨v[4], v[5], v[6]⟩⟩

variable [Scalar R]

def origin : Pose R := ⟨.one, .zero⟩

def ofPosition (position : Vec3 R) : Pose R := ⟨.one, position⟩

def ofOrientation (orientation : Quaternion R) : Pose R := ⟨orientation, .zero⟩

/-- The pose after moving for the time `dt`. The angular velocity is that of the world's frame. -/
def integrate (p : Pose R) (m : Motion R) (dt : R) : Pose R :=
  ⟨(Quaternion.exp (m.angular.scale (0.5 * dt)) * p.orientation).normalize,
   p.position + m.linear.scale dt⟩

def toBody (p : Pose R) (v : Vec3 R) : Vec3 R := p.orientation.conj.rotate v

def toWorld (p : Pose R) (v : Vec3 R) : Vec3 R := p.orientation.rotate v

end Pose

end ColumnSim
