import ColumnSim.Proofs.Exact
import ColumnSim.Spatial.Inertia

/-! The equations of a rigid body: what its acceleration solves, axis by axis, in the body's own frame. -/

namespace ColumnSim.Inertia

open Exact

attribute [-instance] Scalar.toAdd Scalar.toSub Scalar.toMul Scalar.toDiv Scalar.toNeg Scalar.toOfScientific

variable {K : Type} [Field K] [LinearOrder K] [Curves K]

lemma blocks_iff {x : K} : blocks x = true ↔ |x| < 1e-10 := decide_eq_true_iff

lemma not_blocks {x : K} (h : 1e-10 ≤ |x|) : ¬ blocks x = true := fun hb => (blocks_iff.1 hb).not_ge h

variable {i : Inertia K} {spin torque : Vec3 K}

def alpha (i : Inertia K) (spin torque : Vec3 K) : Vec3 K :=
  let net := torque - spin.cross (i.moments.times spin)
  ⟨quotient net.x i.moments.x, quotient net.y i.moments.y, quotient net.z i.moments.z⟩

lemma along_alpha (axis : Axis) : (i.alpha spin torque).along axis =
    quotient ((torque - spin.cross (i.moments.times spin)).along axis) (i.moments.along axis) := by cases axis <;> rfl

lemma linear_of_lt {p : Pose K} {m : Motion K} {w : Wrench K} (h : |i.mass| < 1e-10) :
    (i.accelerate p m w).linear = .zero := by
  rw [accelerate, immovable, if_pos (blocks_iff.2 h)]

variable [IsStrictOrderedRing K]

omit [Curves K] in
lemma ne_zero_of_le {x : K} (h : 1e-10 ≤ |x|) : x ≠ 0 := by
  have hpos : (0 : K) < 1e-10 := by norm_num
  exact abs_pos.1 (hpos.trans_le h)

lemma mul_quotient {n d : K} (h : 1e-10 ≤ |d|) : d * quotient n d = n := by
  rw [quotient, if_neg (not_blocks h)]
  exact mul_div_cancel₀ n (ne_zero_of_le h)

lemma quotient_of_lt {n d : K} (h : |d| < 1e-10) : quotient n d = 0 := by
  rw [quotient, if_pos (blocks_iff.2 h)]
  exact zero_literal

lemma along_equation {axis : Axis} (h : 1e-10 ≤ |i.moments.along axis|) :
    (i.moments.times (i.alpha spin torque) + spin.cross (i.moments.times spin)).along axis = torque.along axis := by
  rw [Vec3.along_add, Vec3.along_times, along_alpha, mul_quotient h, Vec3.along_sub, sub_add_cancel]

lemma times_alpha (h : ∀ axis, 1e-10 ≤ |i.moments.along axis|) :
    i.moments.times (i.alpha spin torque) = torque - spin.cross (i.moments.times spin) := by
  refine Vec3.ext_along fun axis => ?_
  rw [Vec3.along_times, along_alpha, mul_quotient (h axis)]

lemma spin_dot_times_alpha (h : ∀ axis, 1e-10 ≤ |i.moments.along axis|) :
    spin.dot (i.moments.times (i.alpha spin torque)) = spin.dot torque := by
  rw [times_alpha h, Vec3.dot_sub, Vec3.dot_cross_left, sub_zero]

lemma momentum_dot_times_alpha (h : ∀ axis, 1e-10 ≤ |i.moments.along axis|) :
    (i.moments.times spin).dot (i.moments.times (i.alpha spin torque)) = (i.moments.times spin).dot torque := by
  rw [times_alpha h, Vec3.dot_sub, Vec3.dot_cross_right, sub_zero]

variable {p : Pose K} {m : Motion K} {w : Wrench K}

lemma scale_linear (h : 1e-10 ≤ |i.mass|) : (i.accelerate p m w).linear.scale i.mass = w.force := by
  refine Vec3.ext_along fun axis => ?_
  rw [accelerate, immovable, if_neg (not_blocks h), Vec3.along_scale, Vec3.along_divide]
  exact div_mul_cancel₀ _ (ne_zero_of_le h)

lemma toBody_angular (hp : p.Normalized) :
    p.toBody (i.accelerate p m w).angular = i.alpha (p.toBody m.angular) (p.toBody w.torque) :=
  hp.toBody_toWorld _

theorem accelerate_solves (i : Inertia K) (hp : p.Normalized) (m : Motion K) (w : Wrench K) :
    let spin := p.toBody m.angular
    let alpha := p.toBody (i.accelerate p m w).angular
    (∀ axis, if 1e-10 ≤ |i.moments.along axis| then
        (i.moments.times alpha + spin.cross (i.moments.times spin)).along axis = (p.toBody w.torque).along axis
      else alpha.along axis = 0) ∧
    (if 1e-10 ≤ |i.mass| then (i.accelerate p m w).linear.scale i.mass = w.force
      else (i.accelerate p m w).linear = .zero) ∧
    ((∀ axis, 1e-10 ≤ |i.moments.along axis|) → spin.dot (i.moments.times alpha) = m.angular.dot w.torque ∧
      (w.torque = .zero → spin.dot (i.moments.times alpha) = 0 ∧
        (i.moments.times spin).dot (i.moments.times alpha) = 0)) := by
  intro spin alpha
  have halpha : alpha = i.alpha spin (p.toBody w.torque) := toBody_angular hp
  have hwork (h : ∀ axis, 1e-10 ≤ |i.moments.along axis|) :
      spin.dot (i.moments.times alpha) = m.angular.dot w.torque := by
    rw [halpha, spin_dot_times_alpha h, hp.dot_toBody]
  refine ⟨fun axis => ?_, ?_, fun h => ⟨hwork h, fun htorque => ⟨?_, ?_⟩⟩⟩
  · rw [halpha]
    split
    · exact along_equation ‹_›
    · rw [along_alpha, quotient_of_lt (not_le.1 ‹_›)]
  · split
    · exact scale_linear ‹_›
    · exact linear_of_lt (not_le.1 ‹_›)
  · rw [hwork h, htorque, Vec3.dot_zero]
  · rw [halpha, momentum_dot_times_alpha h, htorque, Pose.toBody_zero, Vec3.dot_zero]

theorem accelerate_solves_top :
    let i : Inertia ℝ := ⟨2, ⟨1, 2, 3⟩⟩
    let p : Pose ℝ := ⟨⟨0, 0, 3 / 5, 4 / 5⟩, .zero⟩
    let m : Motion ℝ := ⟨⟨1, 1, 0⟩, .zero⟩
    let w : Wrench ℝ := ⟨.zero, ⟨4, 0, 0⟩⟩
    let spin := p.toBody m.angular
    let alpha := p.toBody (i.accelerate p m w).angular
    p.Normalized ∧ (∀ axis, 1e-10 ≤ |i.moments.along axis|) ∧ 1e-10 ≤ |i.mass| ∧ w.torque = .zero ∧
      alpha.z = 527 / 1875 ∧ (i.accelerate p m w).linear.scale 2 = ⟨4, 0, 0⟩ ∧
      spin.dot (i.moments.times alpha) = 0 ∧ (i.moments.times spin).dot (i.moments.times alpha) = 0 := by
  intro i p m w spin alpha
  have hp : p.Normalized := by norm_num [p, Pose.Normalized, Quaternion.lengthSquared]
  have hmoments : ∀ axis, 1e-10 ≤ |i.moments.along axis| := by
    intro axis
    cases axis <;> norm_num [i, Vec3.along]
  have hmass : 1e-10 ≤ |i.mass| := by norm_num [i]
  obtain ⟨hangular, hlinear, hrates⟩ := accelerate_solves i hp m w
  obtain ⟨_, hfree⟩ := hrates hmoments
  have hspin : p.toBody m.angular = ⟨31 / 25, -17 / 25, 0⟩ := by
    simp only [p, m, Pose.toBody, Quaternion.rotate, Quaternion.conj, Vec3.scale, Vec3.dot, Vec3.cross,
      Vec3.mk_add, two_literal, Vec3.mk.injEq]
    norm_num
  have hz := hangular .z
  rw [if_pos (hmoments .z), Pose.toBody_zero, Vec3.along_zero, Vec3.along_add, Vec3.along_times, hspin] at hz
  have hequation : 3 * alpha.z + (31 / 25 * (2 * (-17 / 25)) - 1 * (31 / 25) * (-17 / 25)) = 0 := hz
  rw [if_pos hmass] at hlinear
  exact ⟨hp, hmoments, hmass, rfl, by linarith, hlinear, hfree rfl⟩

end ColumnSim.Inertia
