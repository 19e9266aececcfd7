import Std.Data.TreeMap

namespace ColumnSim

structure ComponentId where
  raw : UInt64
deriving DecidableEq

namespace ComponentId

def offsetBasis : UInt64 := 0xcbf29ce484222325

def hashPrime : UInt64 := 0x100000001b3

def absorb (h : UInt64) (b : UInt8) : UInt64 := (h ^^^ b.toUInt64) * hashPrime

def ofBytes (bytes : List UInt8) : ComponentId := ⟨bytes.foldl absorb offsetBasis⟩

def ofName (name : String) : ComponentId := ofBytes (name.toList.flatMap String.utf8EncodeChar)

instance : Ord ComponentId := ⟨compareOn raw⟩

instance : Std.TransOrd ComponentId := inferInstanceAs (Std.TransCmp (compareOn raw))

instance : Std.LawfulEqOrd ComponentId where
  eq_of_compare {a b} h := by
    have h : compare a.raw b.raw = .eq := h
    have hr : a.raw = b.raw := Std.LawfulEqCmp.eq_of_compare h
    cases a; cases b; exact congrArg mk hr

def hex (c : ComponentId) : String :=
  let digits := Nat.toDigits 16 c.raw.toNat
  String.ofList (List.replicate (16 - digits.length) '0' ++ digits)

end ComponentId

end ColumnSim
