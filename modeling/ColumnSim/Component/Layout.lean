import ColumnSim.Element

namespace ColumnSim

structure Layout where
  kind : ElemKind
  shape : List Nat
deriving DecidableEq

namespace Layout

/-- The number of elements of a value, as the product of 64-bit words. -/
def width (l : Layout) : Nat :=
  match l.shape with
  | [] => 1
  | d :: ds => ds.foldl (fun n d => n * d % UInt64.size) d

def describe (l : Layout) : String :=
  match l.shape with
  | [] => l.kind.name
  | dims => l.kind.name ++ "[" ++ String.intercalate ", " (dims.map toString) ++ "]"

abbrev Value (R : Type) (l : Layout) := Vector (l.kind.Elem R) l.width

end Layout

namespace Buffer

variable {R : Type}

def layout (b : Buffer R) : Layout := ⟨b.kind, [b.size]⟩

def ofValue {l : Layout} (v : l.Value R) : Buffer R := ⟨l.kind, v.toArray⟩

def value? (b : Buffer R) (l : Layout) : Option (l.Value R) :=
  match b.view l.kind with
  | some xs => if h : xs.size = l.width then some ⟨xs, h⟩ else none
  | none => none

theorem value?_ofValue {l : Layout} (v : l.Value R) : (ofValue v).value? l = some v := by
  obtain ⟨xs, h⟩ := v
  simp [value?, ofValue, view_self, h]

end Buffer

end ColumnSim
