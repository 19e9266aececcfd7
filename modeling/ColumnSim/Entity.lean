import Std.Data.TreeMap

namespace ColumnSim

structure EntityId where
  raw : Nat
deriving DecidableEq

namespace EntityId

instance : Ord EntityId := ⟨compareOn raw⟩

instance : Std.TransOrd EntityId := inferInstanceAs (Std.TransCmp (compareOn raw))

instance : Std.LawfulEqOrd EntityId where
  eq_of_compare {a b} h := by
    have h : compare a.raw b.raw = .eq := h
    have hr : a.raw = b.raw := Std.LawfulEqCmp.eq_of_compare h
    cases a; cases b; exact congrArg mk hr

def text (e : EntityId) : String := "Entity(" ++ toString e.raw ++ ")"

def toElem (e : EntityId) : UInt64 := UInt64.ofNat e.raw

def ofElem (x : UInt64) : EntityId := ⟨x.toNat⟩

end EntityId

structure Allocator where
  size : Nat
deriving DecidableEq

namespace Allocator

def empty : Allocator := ⟨0⟩

def allocate (a : Allocator) : EntityId × Allocator := (⟨a.size⟩, ⟨a.size + 1⟩)

def contains (a : Allocator) (e : EntityId) : Bool := e.raw < a.size

theorem contains_allocate {a : Allocator} {e : EntityId} :
    a.allocate.2.contains e ↔ a.contains e ∨ e = a.allocate.1 := by
  obtain ⟨n⟩ := a
  obtain ⟨k⟩ := e
  have h : (⟨k⟩ : EntityId) = ⟨n⟩ ↔ k = n := ⟨congrArg EntityId.raw, congrArg EntityId.mk⟩
  change decide (k < n + 1) = true ↔ decide (k < n) = true ∨ (⟨k⟩ : EntityId) = ⟨n⟩
  rw [h, decide_eq_true_iff, decide_eq_true_iff]
  exact Nat.lt_succ_iff_lt_or_eq

def isEmpty (a : Allocator) : Bool := a.size == 0

end Allocator

end ColumnSim
