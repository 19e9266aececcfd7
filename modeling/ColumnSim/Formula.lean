import ColumnSim.Query

/-! Formulas: functions on rows given as data, by one expression for each element of the result. -/

namespace ColumnSim

structure Operand where
  row : Nat
  component : Nat
  element : Nat
deriving DecidableEq

inductive Operator
  | add
  | sub
  | mul
  | div
deriving DecidableEq

inductive Formula (k : ElemKind)
  | constant (x : k.Elem Float)
  | operand (o : Operand)
  | binary (op : Operator) (a b : Formula k)

namespace ElemKind

def zero : (k : ElemKind) → k.Elem Float
  | f32 => (0.0 : Float32)
  | f64 => (0.0 : Float)
  | u64 => (0 : UInt64)

/-- Reals are rounded to the nearest and cut off towards zero, within the range of the words. -/
def convert : (k l : ElemKind) → k.Elem Float → l.Elem Float
  | f32, f32, x => x
  | f32, f64, x => Float32.toFloat x
  | f32, u64, x => Float32.toUInt64 x
  | f64, f32, x => Float.toFloat32 x
  | f64, f64, x => x
  | f64, u64, x => Float.toUInt64 x
  | u64, f32, x => UInt64.toFloat32 x
  | u64, f64, x => UInt64.toFloat x
  | u64, u64, x => x

/-- Words wrap around, and a word divided by zero is zero. -/
def compute (op : Operator) : (k : ElemKind) → k.Elem Float → k.Elem Float → k.Elem Float
  | f32, x, y =>
    match op with
    | .add => Float32.add x y
    | .sub => Float32.sub x y
    | .mul => Float32.mul x y
    | .div => Float32.div x y
  | f64, x, y =>
    match op with
    | .add => Float.add x y
    | .sub => Float.sub x y
    | .mul => Float.mul x y
    | .div => Float.div x y
  | u64, x, y =>
    match op with
    | .add => UInt64.add x y
    | .sub => UInt64.sub x y
    | .mul => UInt64.mul x y
    | .div => UInt64.div x y

end ElemKind

namespace Formula

variable {k : ElemKind}

def fetch (k : ElemKind) (rows : List (List (Buffer Float))) (o : Operand) : k.Elem Float :=
  match rows[o.row]? with
  | none => k.zero
  | some cells =>
    match cells[o.component]? with
    | none => k.zero
    | some ⟨l, elems⟩ =>
      match elems[o.element]? with
      | none => k.zero
      | some x => l.convert k x

def eval (rows : List (List (Buffer Float))) : Formula k → k.Elem Float
  | constant x => x
  | operand o => fetch k rows o
  | binary op a b => k.compute op (a.eval rows) (b.eval rows)

end Formula

abbrev Formulas (s : Schema) := Vector (Formula s.layout.kind) s.layout.width

namespace Formulas

variable {output : Schema}

def eval (fs : Formulas output) (rows : List (List (Buffer Float))) : output.Value Float :=
  Vector.map (Formula.eval rows) fs

def mapRow (fs : Formulas output) (inputs : List Schema) (row : Row Float inputs) : output.Value Float :=
  fs.eval [Row.cells inputs row]

def foldStep (fs : Formulas output) (left right : List Schema) (acc : output.Value Float)
    (l : Row Float left) (r : Row Float right) : output.Value Float :=
  fs.eval [[.ofValue acc], Row.cells left l, Row.cells right r]

end Formulas

end ColumnSim
