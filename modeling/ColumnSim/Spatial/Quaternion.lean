import ColumnSim.Spatial.Vector

namespace ColumnSim

structure Quaternion (R : Type) where
  x : R
  y : R
  z : R
  w : R

namespace Quaternion

variable {R : Type} [Scalar R]

def one : Quaternion R := ⟨0.0, 0.0, 0.0, 1.0⟩

def lengthSquared (q : Quaternion R) : R := q.x * q.x + q.y * q.y + q.z * q.z + q.w * q.w

def scale (q : Quaternion R) (k : R) : Quaternion R := ⟨q.x * k, q.y * k, q.z * k, q.w * k⟩

def normalize (q : Quaternion R) : Quaternion R := q.scale (1.0 / Scalar.sqrt q.lengthSquared)

def conj (q : Quaternion R) : Quaternion R := ⟨-q.x, -q.y, -q.z, q.w⟩

instance : Mul (Quaternion R) where
  mul p q :=
    ⟨p.w * q.x + p.x * q.w + p.y * q.z - p.z * q.y,
     p.w * q.y - p.x * q.z + p.y * q.w + p.z * q.x,
     p.w * q.z + p.x * q.y - p.y * q.x + p.z * q.w,
     p.w * q.w - p.x * q.x - p.y * q.y - p.z * q.z⟩

def rotate (q : Quaternion R) (v : Vec3 R) : Vec3 R :=
  let b : Vec3 R := ⟨q.x, q.y, q.z⟩
  v.scale (q.w * q.w - b.dot b) + b.scale (v.dot b * 2.0) + (b.cross v).scale (q.w * 2.0)

/-- The rotation by twice the angle of `v`; near zero the quotient is taken from its series. -/
def exp (v : Vec3 R) : Quaternion R :=
  let angle := v.length
  let k := if Scalar.less angle 1e-8 then 1.0 - angle * angle / 6.0 else Scalar.sin angle / angle
  ⟨v.x * k, v.y * k, v.z * k, Scalar.cos angle⟩

end Quaternion

end ColumnSim
