namespace ColumnSim.Random

structure Key where
  raw : UInt64
deriving DecidableEq

def stir (shift factor z : UInt64) : UInt64 := (z ^^^ (z >>> shift)) * factor

def mix (z : UInt64) : UInt64 :=
  let z := stir 27 0x94d049bb133111eb (stir 30 0xbf58476d1ce4e5b9 (z + 0x9e3779b97f4a7c15))
  z ^^^ (z >>> 31)

namespace Key

def ofSeed (seed : UInt64) : Key := ⟨mix seed⟩

def foldIn (k : Key) (x : UInt64) : Key := ⟨mix (k.raw ^^^ mix x)⟩

def foldAll (k : Key) (xs : List UInt64) : Key := xs.foldl foldIn k

end Key

/-- The operations of a generator with states `S`. A sample of a range is missing if the generator does not return. -/
structure Generator (S : Type) where
  ofSeed : UInt64 → S
  unit : StateM S Float
  within : Float → Float → StateT S Option Float

def samples {m : Type → Type} [Monad m] {S A : Type} (draw : StateT S m A) : Nat → StateT S m (List A)
  | 0 => pure []
  | n + 1 => do
    let x ← draw
    let xs ← samples draw n
    return x :: xs

/-- A normal deviate from two uniform ones. The first is reflected, so that it has a logarithm. -/
def Generator.deviate {S : Type} (g : Generator S) : StateM S Float := do
  let u ← g.unit
  let v ← g.unit
  let radius := Float.sqrt (-2.0 * Float.log (1.0 - u))
  return radius * Float.cos (6.28318530717958647692528676655900577 * v)

inductive RangeError
  | empty
  | noReturn
deriving DecidableEq

def RangeError.message? : RangeError → Option String
  | empty => some "uniform_range requires low < high"
  | noReturn => none

namespace Key

variable {S : Type}

def generator (k : Key) (g : Generator S) : S := g.ofSeed k.raw

def uniform (k : Key) (g : Generator S) (n : Nat) : List Float := ((samples g.unit n).run (k.generator g)).run.1

def normal (k : Key) (g : Generator S) (n : Nat) : List Float := ((samples g.deviate n).run (k.generator g)).run.1

def uniformRange (k : Key) (g : Generator S) (low high : Float) (n : Nat) : Except RangeError (List Float) :=
  if low < high then
    match (samples (g.within low high) n).run (k.generator g) with
    | some (xs, _) => .ok xs
    | none => .error .noReturn
  else .error .empty

end Key

end ColumnSim.Random
