import ColumnSim.Proofs.RigidBody

/-! The energy of a rigid body. It is computed in the frame of the body, its angular momentum in that of the world; a
change of frames, which is an isometry, takes one to the other. -/

namespace ColumnSim.Inertia

open Exact

attribute [-instance] Scalar.toAdd Scalar.toSub Scalar.toMul Scalar.toDiv Scalar.toNeg Scalar.toOfScientific

variable {K : Type} [Field K] [LinearOrder K] [Curves K] [IsStrictOrderedRing K]
variable {i : Inertia K} {p : Pose K} {m : Motion K}

lemma angularMomentum_dot (hp : p.Normalized) : (i.angularMomentum p m).dot m.angular =
    (p.toBody m.angular).dot (i.moments.times (p.toBody m.angular)) := by
  rw [angularMomentum, hp.dot_toWorld, Vec3.dot_comm]

lemma kineticEnergy_of_le (hp : p.Normalized) (h : 1e-10 ≤ |i.mass|) : i.kineticEnergy p m =
    1 / 2 * i.mass * m.linear.lengthSquared + 1 / 2 * (i.angularMomentum p m).dot m.angular := by
  rw [kineticEnergy, immovable, if_neg (not_blocks h), half_literal, angularMomentum_dot hp]

lemma kineticEnergy_of_lt (hp : p.Normalized) (h : |i.mass| < 1e-10) :
    i.kineticEnergy p m = 1 / 2 * (i.angularMomentum p m).dot m.angular := by
  rw [kineticEnergy, immovable, if_pos (blocks_iff.2 h), zero_literal, zero_add, half_literal, angularMomentum_dot hp]

theorem kineticEnergy_eq_momentum (hp : p.Normalized) :
    (∀ v, p.toWorld (p.toBody v) = v) ∧ (∀ v, p.toBody (p.toWorld v) = v) ∧
    (∀ u v, (p.toBody u).dot (p.toBody v) = u.dot v) ∧
    ∀ (i : Inertia K) (m : Motion K),
      (1e-10 ≤ |i.mass| → i.kineticEnergy p m =
        1 / 2 * i.mass * m.linear.lengthSquared + 1 / 2 * (i.angularMomentum p m).dot m.angular) ∧
      (|i.mass| < 1e-10 → i.kineticEnergy p m = 1 / 2 * (i.angularMomentum p m).dot m.angular) :=
  ⟨hp.toWorld_toBody, hp.toBody_toWorld, hp.dot_toBody, fun _ _ => ⟨kineticEnergy_of_le hp, kineticEnergy_of_lt hp⟩⟩

theorem kineticEnergy_eq_momentum_top :
    let i : Inertia ℝ := ⟨2, ⟨1, 2, 3⟩⟩
    let p : Pose ℝ := ⟨⟨0, 0, 3 / 5, 4 / 5⟩, .zero⟩
    let m : Motion ℝ := ⟨⟨1, 1, 0⟩, ⟨3, 0, 0⟩⟩
    p.Normalized ∧ 1e-10 ≤ |i.mass| ∧ p.toBody m.angular = ⟨31 / 25, -17 / 25, 0⟩ ∧
      p.toWorld (p.toBody m.angular) = m.angular ∧ (i.angularMomentum p m).dot m.angular = 1539 / 625 ∧
      i.kineticEnergy p m = 9 + 1539 / 1250 := by
  intro i p m
  have hp : p.Normalized := by norm_num [p, Pose.Normalized, Quaternion.lengthSquared]
  have hmass : 1e-10 ≤ |i.mass| := by norm_num [i]
  have hspin : p.toBody m.angular = ⟨31 / 25, -17 / 25, 0⟩ := by
    simp only [p, m, Pose.toBody, Quaternion.rotate, Quaternion.conj, Vec3.scale, Vec3.dot, Vec3.cross,
      Vec3.mk_add, two_literal, Vec3.mk.injEq]
    norm_num
  have hmomentum : (i.angularMomentum p m).dot m.angular = 1539 / 625 := by
    rw [angularMomentum_dot hp, hspin]
    norm_num [i, Vec3.dot, Vec3.times]
  obtain ⟨hback, _, _, henergy⟩ := kineticEnergy_eq_momentum hp
  refine ⟨hp, hmass, hspin, hback _, hmomentum, ?_⟩
  rw [(henergy i m).1 hmass, hmomentum]
  norm_num [i, m, Vec3.lengthSquared, Vec3.dot]

end ColumnSim.Inertia
