/-! Shortest decimals: the fewest digits that read back as the same binary number. -/

namespace ColumnSim

structure Decimal where
  digits : Nat
  exponent : Int
deriving DecidableEq

namespace Decimal

structure Binary where
  mantissa : Nat
  exponent : Int
deriving DecidableEq

namespace Binary

def hiddenBit : Nat := 4503599627370496

def ofBits (bits : UInt64) : Binary :=
  let field := (bits >>> 52).toNat % 2048
  let fraction := bits.toNat % hiddenBit
  if field = 0 then ⟨fraction, -1074⟩ else ⟨hiddenBit + fraction, field - 1075⟩

def atPower (b : Binary) : Bool := b.mantissa = hiddenBit && b.exponent > -1074

end Binary

structure Fraction where
  num : Nat
  den : Nat

namespace Fraction

def ofBinary (n : Nat) (e : Int) : Fraction := ⟨n * Nat.pow 2 e.toNat, Nat.pow 2 (-e).toNat⟩

def inUnits (f : Fraction) (e : Int) : Fraction := ⟨f.num * Nat.pow 10 (-e).toNat, f.den * Nat.pow 10 e.toNat⟩

def le (f g : Fraction) : Bool := f.num * g.den ≤ g.num * f.den

def lt (f g : Fraction) : Bool := f.num * g.den < g.num * f.den

def wholeDigits (f : Fraction) : Nat := (Nat.toDigits 10 (f.num / f.den)).length

def leadingZeros (f : Fraction) : Nat → Nat
  | 0 => 0
  | bound + 1 => if 10 * f.num < f.den then leadingZeros ⟨10 * f.num, f.den⟩ bound + 1 else 0

def magnitude (f : Fraction) : Int :=
  if f.num < f.den then -(leadingZeros f 400) else wholeDigits f

end Fraction

/-- The reals that are read as one binary number. The ends belong to it if its mantissa is even. -/
structure Interval where
  low : Fraction
  high : Fraction
  closed : Bool

namespace Interval

def ofBinary (b : Binary) : Interval where
  low := .ofBinary (4 * b.mantissa - if b.atPower then 1 else 2) (b.exponent - 2)
  high := .ofBinary (4 * b.mantissa + 2) (b.exponent - 2)
  closed := b.mantissa % 2 == 0

def contains (i : Interval) (f : Fraction) : Bool :=
  if i.closed then i.low.le f && f.le i.high else i.low.lt f && f.lt i.high

end Interval

def toFraction (d : Decimal) : Fraction :=
  ⟨d.digits * Nat.pow 10 d.exponent.toNat, Nat.pow 10 (-d.exponent).toNat⟩

/-- The neighbour of `f` on the grid of units `10 ^ e` that lies in `i`. Of two, the nearer; a tie goes up. -/
def gridPoint? (i : Interval) (f : Fraction) (e : Int) : Option Decimal :=
  let units := f.inUnits e
  let below : Decimal := ⟨units.num / units.den, e⟩
  let above : Decimal := ⟨units.num / units.den + 1, e⟩
  let nearer := if 2 * (units.num % units.den) < units.den then below else above
  match i.contains below.toFraction, i.contains above.toFraction with
  | true, true => some nearer
  | true, false => some below
  | false, true => some above
  | false, false => none

def refine (i : Interval) (f : Fraction) (e : Int) : Nat → Option Decimal
  | 0 => none
  | places + 1 =>
    match gridPoint? i f e with
    | some d => some d
    | none => refine i f (e - 1) places

def shortest (b : Binary) : Decimal :=
  let f := Fraction.ofBinary b.mantissa b.exponent
  (refine (.ofBinary b) f (f.magnitude - 1) 17).getD ⟨0, 0⟩

def withPoint (digits : List Char) (places : Nat) : List Char :=
  let digits := List.replicate (places + 1 - digits.length) '0' ++ digits
  let whole := digits.take (digits.length - places)
  let fraction := ((digits.drop (digits.length - places)).reverse.dropWhile (· == '0')).reverse
  if fraction.isEmpty then whole else whole ++ '.' :: fraction

def positional (d : Decimal) : String :=
  let digits := Nat.toDigits 10 d.digits ++ List.replicate d.exponent.toNat '0'
  String.ofList (withPoint digits (-d.exponent).toNat)

def textOf (x : Float) : String := (shortest (.ofBits x.toBits)).positional

end Decimal

end ColumnSim
