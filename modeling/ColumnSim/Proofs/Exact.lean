import ColumnSim.Spatial.Motion
import Mathlib.Analysis.SpecialFunctions.Trigonometric.Basic
import Mathlib.Tactic.Ring

/-! Exact arithmetic: over an ordered field, a unit quaternion and its conjugate are rotations that undo each other and
keep the products of vectors. -/

namespace ColumnSim

namespace Exact

/-- The functions of a scalar that are no operations of its field. -/
class Curves (K : Type) where
  sqrt : K → K
  sin : K → K
  cos : K → K

noncomputable instance : Curves ℝ := ⟨Real.sqrt, Real.sin, Real.cos⟩

scoped instance scalar {K : Type} [Field K] [LinearOrder K] [Curves K] : Scalar K where
  toAdd := inferInstance
  toSub := inferInstance
  toMul := inferInstance
  toDiv := inferInstance
  toNeg := inferInstance
  toOfScientific := inferInstance
  sqrt := Curves.sqrt
  sin := Curves.sin
  cos := Curves.cos
  abs := abs
  less x y := decide (x < y)
  finite _ := true

end Exact

open Exact

-- The operations of the scalar are those of the field, and are written as such.
attribute [-instance] Scalar.toAdd Scalar.toSub Scalar.toMul Scalar.toDiv Scalar.toNeg Scalar.toOfScientific

inductive Axis
  | x
  | y
  | z

namespace Vec3

def along {R : Type} (v : Vec3 R) : Axis → R
  | .x => v.x
  | .y => v.y
  | .z => v.z

lemma ext_along {R : Type} {a b : Vec3 R} (h : ∀ axis, a.along axis = b.along axis) : a = b := by
  cases a
  cases b
  exact congr (congr (congrArg mk (h .x)) (h .y)) (h .z)

end Vec3

section Literals

variable {K : Type} [Field K] [CharZero K]

lemma zero_literal : (0.0 : K) = 0 := by norm_num

lemma half_literal : (0.5 : K) = 1 / 2 := by norm_num

lemma two_literal : (2.0 : K) = 2 := by norm_num

end Literals

variable {K : Type} [Field K] [LinearOrder K] [Curves K]

namespace Vec3

variable (a b c : Vec3 K) (k : K) (axis : Axis)

lemma along_add : (a + b).along axis = a.along axis + b.along axis := by cases axis <;> rfl

lemma along_sub : (a - b).along axis = a.along axis - b.along axis := by cases axis <;> rfl

lemma along_times : (a.times b).along axis = a.along axis * b.along axis := by cases axis <;> rfl

lemma along_scale : (a.scale k).along axis = a.along axis * k := by cases axis <;> rfl

lemma along_divide : (a.divide k).along axis = a.along axis / k := by cases axis <;> rfl

lemma mk_add (x y z x' y' z' : K) : (⟨x, y, z⟩ + ⟨x', y', z'⟩ : Vec3 K) = ⟨x + x', y + y', z + z'⟩ := rfl

lemma dot_sub : a.dot (b - c) = a.dot b - a.dot c := by
  change a.x * (b.x - c.x) + a.y * (b.y - c.y) + a.z * (b.z - c.z) = _
  rw [dot, dot]
  ring

lemma dot_cross_left : a.dot (a.cross b) = 0 := by
  simp only [dot, cross]
  ring

lemma dot_cross_right : b.dot (a.cross b) = 0 := by
  simp only [dot, cross]
  ring

lemma dot_comm : a.dot b = b.dot a := by
  simp only [dot]
  ring

end Vec3

lemma Quaternion.lengthSquared_conj (q : Quaternion K) : q.conj.lengthSquared = q.lengthSquared := by
  simp only [lengthSquared, conj]
  ring

lemma Quaternion.conj_conj (q : Quaternion K) : q.conj.conj = q := by
  simp only [conj, neg_neg]

variable [IsStrictOrderedRing K]

namespace Vec3

lemma along_zero (axis : Axis) : (zero : Vec3 K).along axis = 0 := by cases axis <;> exact zero_literal

lemma dot_zero (a : Vec3 K) : a.dot zero = 0 := by
  simp only [dot, zero, zero_literal]
  ring

end Vec3

namespace Quaternion

variable (q : Quaternion K) (u v : Vec3 K)

lemma conj_rotate_rotate : q.conj.rotate (q.rotate v) = v.scale (q.lengthSquared * q.lengthSquared) := by
  simp only [rotate, conj, lengthSquared, Vec3.scale, Vec3.dot, Vec3.cross, Vec3.mk_add, two_literal, Vec3.mk.injEq]
  refine ⟨?_, ?_, ?_⟩ <;> ring

lemma dot_rotate : (q.rotate u).dot (q.rotate v) = q.lengthSquared * q.lengthSquared * u.dot v := by
  simp only [rotate, lengthSquared, Vec3.scale, Vec3.dot, Vec3.cross, Vec3.mk_add, two_literal]
  ring

lemma rotate_zero : q.rotate .zero = .zero := by
  simp only [rotate, Vec3.zero, zero_literal, two_literal, Vec3.scale, Vec3.dot, Vec3.cross, Vec3.mk_add,
    Vec3.mk.injEq]
  refine ⟨?_, ?_, ?_⟩ <;> ring

end Quaternion

namespace Pose

variable {p : Pose K}

def Normalized (p : Pose K) : Prop := p.orientation.lengthSquared = 1

lemma toBody_zero : p.toBody .zero = .zero := Quaternion.rotate_zero _

lemma Normalized.toBody_toWorld (hp : p.Normalized) (v : Vec3 K) : p.toBody (p.toWorld v) = v := by
  refine Vec3.ext_along fun axis => ?_
  rw [toBody, toWorld, Quaternion.conj_rotate_rotate, hp, Vec3.along_scale, mul_one, mul_one]

lemma Normalized.toWorld_toBody (hp : p.Normalized) (v : Vec3 K) : p.toWorld (p.toBody v) = v := by
  have hback := Quaternion.conj_rotate_rotate p.orientation.conj v
  rw [Quaternion.conj_conj, Quaternion.lengthSquared_conj, hp, mul_one] at hback
  refine Vec3.ext_along fun axis => ?_
  rw [toWorld, toBody, hback, Vec3.along_scale, mul_one]

lemma Normalized.dot_toBody (hp : p.Normalized) (u v : Vec3 K) : (p.toBody u).dot (p.toBody v) = u.dot v := by
  rw [toBody, toBody, Quaternion.dot_rotate, Quaternion.lengthSquared_conj, hp, one_mul, one_mul]

lemma Normalized.dot_toWorld (hp : p.Normalized) (u v : Vec3 K) : (p.toWorld u).dot v = u.dot (p.toBody v) := by
  rw [← hp.dot_toBody, hp.toBody_toWorld]

end Pose

end ColumnSim
