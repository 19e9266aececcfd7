namespace ColumnSim

/-- The operations on real elements. The order is a Boolean test, so that an unordered value answers `false`. -/
class Scalar (R : Type) extends Add R, Sub R, Mul R, Div R, Neg R, OfScientific R where
  sqrt : R → R
  sin : R → R
  cos : R → R
  abs : R → R
  less : R → R → Bool
  finite : R → Bool

instance : Scalar Float where
  sqrt := Float.sqrt
  sin := Float.sin
  cos := Float.cos
  abs := Float.abs
  less x y := decide (x < y)
  finite := Float.isFinite

inductive ElemKind
  | f32
  | f64
  | u64
deriving DecidableEq

namespace ElemKind

abbrev Elem (R : Type) : ElemKind → Type
  | f32 => Float32
  | f64 => R
  | u64 => UInt64

def name : ElemKind → String
  | f32 => "f32"
  | f64 => "f64"
  | u64 => "u64"

def byteWidth : ElemKind → Nat
  | f32 => 4
  | f64 => 8
  | u64 => 8

end ElemKind

structure Buffer (R : Type) where
  kind : ElemKind
  elems : Array (kind.Elem R)

namespace Buffer

variable {R : Type}

def empty (k : ElemKind) : Buffer R := ⟨k, #[]⟩

def size (b : Buffer R) : Nat := b.elems.size

def isEmpty (b : Buffer R) : Bool := b.elems.isEmpty

def view (b : Buffer R) (k : ElemKind) : Option (Array (k.Elem R)) :=
  if h : b.kind = k then some (h ▸ b.elems) else none

def append (b c : Buffer R) : Buffer R :=
  match c.view b.kind with
  | some xs => ⟨b.kind, b.elems ++ xs⟩
  | none => b

inductive Extension (R : Type)
  | appended (b : Buffer R)
  | otherKind
  | outOfRange

def extend (b c : Buffer R) (start stop : Nat) : Extension R :=
  match c.view b.kind with
  | none => .otherKind
  | some xs =>
    if start ≤ stop ∧ stop ≤ xs.size then .appended ⟨b.kind, b.elems ++ xs.extract start stop⟩
    else .outOfRange

def slice? (b : Buffer R) (start stop : Nat) : Option (Buffer R) :=
  if start ≤ stop ∧ stop ≤ b.size then some ⟨b.kind, b.elems.extract start stop⟩ else none

def overwrite (b c : Buffer R) (start stop : Nat) : Buffer R :=
  match c.view b.kind with
  | none => b
  | some xs =>
    if start + xs.size = stop ∧ stop ≤ b.size then
      ⟨b.kind, b.elems.extract 0 start ++ xs ++ b.elems.extract stop b.size⟩
    else b

theorem view_self (k : ElemKind) (xs : Array (k.Elem R)) : (⟨k, xs⟩ : Buffer R).view k = some xs := by
  simp [view]

end Buffer

end ColumnSim
