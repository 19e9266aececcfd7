import ColumnSim.Error

namespace ColumnSim

structure TimeStep (R : Type) [Scalar R] where
  value : R
  positive : Scalar.less 0.0 value = true
  finite : Scalar.finite value = true

namespace TimeStep

variable {R : Type} [Scalar R]

def ofReal (x : R) : Except Error (TimeStep R) :=
  if h : Scalar.less 0.0 x = true ∧ Scalar.finite x = true then .ok ⟨x, h.1, h.2⟩
  else .error .invalidTimeStep

end TimeStep

inductive StepWarning
  | tiny
  | coarse
deriving DecidableEq

namespace StepWarning

def message (dt : String) : StepWarning → String
  | tiny => "Warning: Time step " ++ dt ++ " is extremely small and may cause precision loss with f64."
  | coarse =>
    "Warning: Time step " ++ dt ++ " is large and may cause instability. " ++
      "Consider using smaller time steps for better accuracy."

end StepWarning

def TimeStep.warning? {R : Type} [Scalar R] (t : TimeStep R) : Option StepWarning :=
  if Scalar.less t.value 1e-9 then some .tiny
  else if Scalar.less 1.0 t.value then some .coarse
  else none

end ColumnSim
