import ColumnSim.Error

namespace ColumnSim

abbrev Outcome (S A : Type) := Except Error A × S

namespace Outcome

variable {S A : Type}

def atomic (s : S) : Except Error (A × S) → Outcome S A
  | .ok (a, t) => (.ok a, t)
  | .error e => (.error e, s)

def ofStep (s : S) (r : Except Error S) : Outcome S Unit := atomic s (r.map ((), ·))

def andThen : Outcome S Unit → (S → Outcome S Unit) → Outcome S Unit
  | (.ok _, s), next => next s
  | (.error e, s), _ => (.error e, s)

theorem andThen_assoc (o : Outcome S Unit) (f g : S → Outcome S Unit) :
    (o.andThen f).andThen g = o.andThen fun s => (f s).andThen g := by
  obtain ⟨_ | _, s⟩ := o <;> rfl

def inOrder : List (S → Outcome S Unit) → S → Outcome S Unit
  | [], s => (.ok (), s)
  | step :: steps, s => (step s).andThen (inOrder steps)

theorem inOrder_append (front back : List (S → Outcome S Unit)) (s : S) :
    inOrder (front ++ back) s = (inOrder front s).andThen (inOrder back) := by
  induction front generalizing s with
  | nil => rfl
  | cons step front ih => simp only [List.cons_append, inOrder, andThen_assoc, funext ih]

end Outcome

end ColumnSim
