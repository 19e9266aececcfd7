import ColumnSim.Element

/-! Vectors of space. Each operation fixes the order in which it adds and multiplies. -/

namespace ColumnSim

structure Vec3 (R : Type) where
  x : R
  y : R
  z : R

namespace Vec3

variable {R : Type} [Scalar R]

def zero : Vec3 R := ⟨0.0, 0.0, 0.0⟩

instance : Add (Vec3 R) := ⟨fun a b => ⟨a.x + b.x, a.y + b.y, a.z + b.z⟩⟩

instance : Sub (Vec3 R) := ⟨fun a b => ⟨a.x - b.x, a.y - b.y, a.z - b.z⟩⟩

def scale (a : Vec3 R) (k : R) : Vec3 R := ⟨a.x * k, a.y * k, a.z * k⟩

def divide (a : Vec3 R) (k : R) : Vec3 R := ⟨a.x / k, a.y / k, a.z / k⟩

def times (a b : Vec3 R) : Vec3 R := ⟨a.x * b.x, a.y * b.y, a.z * b.z⟩

def dot (a b : Vec3 R) : R := a.x * b.x + a.y * b.y + a.z * b.z

def cross (a b : Vec3 R) : Vec3 R :=
  ⟨a.y * b.z - b.y * a.z, a.z * b.x - b.z * a.x, a.x * b.y - b.x * a.y⟩

def lengthSquared (a : Vec3 R) : R := a.dot a

def length (a : Vec3 R) : R := Scalar.sqrt a.lengthSquared

end Vec3

end ColumnSim
