import ColumnSim.Proofs.Lowest
import ColumnSim.Spatial.Body
import Mathlib.Tactic.IntervalCases

namespace ColumnSim

variable {R : Type} {V : AssetKind → Type}

section Vectors

lemma Motion.toVector_ofVector (v : Vector R 6) : (ofVector v).toVector = v := by
  apply Vector.ext
  intro i hi
  interval_cases i <;> rfl

lemma Wrench.toVector_ofVector (v : Vector R 6) : (ofVector v).toVector = v := by
  apply Vector.ext
  intro i hi
  interval_cases i <;> rfl

lemma Pose.toVector_ofVector (v : Vector R 7) : (ofVector v).toVector = v := by
  apply Vector.ext
  intro i hi
  interval_cases i <;> rfl

lemma Inertia.toVector_ofVector (v : Vector R 4) : (ofVector v).toVector = v := by
  apply Vector.ext
  intro i hi
  interval_cases i <;> rfl

end Vectors

inductive Part
  | pose
  | velocity
  | acceleration
  | force
  | inertia
deriving DecidableEq

namespace Part

def schema : Part → Schema
  | pose => .worldPos
  | velocity => .worldVel
  | acceleration => .worldAccel
  | force => .force
  | inertia => .inertia

lemma schema_id_ne {p q : Part} (h : q ≠ p) : q.schema.id ≠ p.schema.id := by
  cases p <;> cases q <;> first | exact (h rfl).elim | decide +kernel

end Part

namespace BodyState

variable {b : BodyState R} {p q : Part}

def value (b : BodyState R) : (p : Part) → p.schema.Value R
  | .pose => b.pose.toVector
  | .velocity => b.velocity.toVector
  | .acceleration => b.acceleration.toVector
  | .force => b.force.toVector
  | .inertia => b.inertia.toVector

def set (b : BodyState R) : (p : Part) → p.schema.Value R → BodyState R
  | .pose, v => { b with pose := .ofVector v }
  | .velocity, v => { b with velocity := .ofVector v }
  | .acceleration, v => { b with acceleration := .ofVector v }
  | .force, v => { b with force := .ofVector v }
  | .inertia, v => { b with inertia := .ofVector v }

def row (b : BodyState R) : (ps : List Part) → Row R (ps.map Part.schema)
  | [] => ()
  | p :: ps => (b.value p, b.row ps)

lemma value_set_self (v : p.schema.Value R) : (b.set p v).value p = v := by
  cases p with
  | pose => exact Pose.toVector_ofVector v
  | velocity => exact Motion.toVector_ofVector v
  | acceleration => exact Motion.toVector_ofVector v
  | force => exact Wrench.toVector_ofVector v
  | inertia => exact Inertia.toVector_ofVector v

lemma value_set_of_ne (h : q ≠ p) (v : p.schema.Value R) : (b.set p v).value q = b.value q := by
  cases p <;> cases q <;> first | exact (h rfl).elim | rfl

end BodyState

namespace Store

variable {s : Store R V} {e : EntityId} {b : BodyState R}

lemma bodyState_of_gets (hpose : s.get .worldPos e = .ok (some b.pose.toVector))
    (hvelocity : s.get .worldVel e = .ok (some b.velocity.toVector))
    (hacceleration : s.get .worldAccel e = .ok (some b.acceleration.toVector))
    (hforce : s.get .force e = .ok (some b.force.toVector))
    (hinertia : s.get .inertia e = .ok (some b.inertia.toVector)) :
    s.bodyState e = .ok (some b) := by
  rw [bodyState, hpose, hvelocity, hinertia, hacceleration, hforce]
  rfl

lemma bodyState_eq_some_iff :
    s.bodyState e = .ok (some b) ↔ ∀ p : Part, s.get p.schema e = .ok (some (b.value p)) := by
  constructor
  · intro h
    obtain ⟨pose, hpose, h⟩ := bind_eq_ok_iff.1 h
    obtain ⟨velocity, hvelocity, h⟩ := bind_eq_ok_iff.1 h
    obtain ⟨inertia, hinertia, h⟩ := bind_eq_ok_iff.1 h
    obtain ⟨acceleration, hacceleration, h⟩ := bind_eq_ok_iff.1 h
    obtain ⟨force, hforce, h⟩ := bind_eq_ok_iff.1 h
    split at h
    · cases h
      intro p
      cases p with
      | pose => exact hpose.trans (congrArg (Except.ok ∘ some) (Pose.toVector_ofVector _).symm)
      | velocity => exact hvelocity.trans (congrArg (Except.ok ∘ some) (Motion.toVector_ofVector _).symm)
      | acceleration => exact hacceleration.trans (congrArg (Except.ok ∘ some) (Motion.toVector_ofVector _).symm)
      | force => exact hforce.trans (congrArg (Except.ok ∘ some) (Wrench.toVector_ofVector _).symm)
      | inertia => exact hinertia.trans (congrArg (Except.ok ∘ some) (Inertia.toVector_ofVector _).symm)
    · cases h
  · intro h
    exact bodyState_of_gets (h .pose) (h .velocity) (h .acceleration) (h .force) (h .inertia)

lemma Valid.exists_bodyState (hs : s.Valid) (h : ∀ p : Part, s.Agrees p.schema ∧ s.Holds e p.schema.id) :
    ∃ b, s.bodyState e = .ok (some b) := by
  have hget : ∀ p : Part, ∃ v, s.get p.schema e = .ok (some v) := fun p => (hs.exists_get_iff (h p).1).2 (h p).2
  obtain ⟨pose, hpose⟩ := hget .pose
  obtain ⟨velocity, hvelocity⟩ := hget .velocity
  obtain ⟨acceleration, hacceleration⟩ := hget .acceleration
  obtain ⟨force, hforce⟩ := hget .force
  obtain ⟨inertia, hinertia⟩ := hget .inertia
  simp only [Part.schema] at hpose hvelocity hacceleration hforce hinertia
  refine ⟨⟨.ofVector pose, .ofVector velocity, .ofVector inertia, .ofVector acceleration, .ofVector force⟩, ?_⟩
  rw [bodyState, hpose, hvelocity, hinertia, hacceleration, hforce]
  rfl

lemma reads_row (h : s.bodyState e = .ok (some b)) (ps : List Part) :
    Row.Reads s e (ps.map Part.schema) (b.row ps) := by
  induction ps with
  | nil => trivial
  | cons p ps ih => exact ⟨bodyState_eq_some_iff.1 h p, ih⟩

end Store

end ColumnSim
