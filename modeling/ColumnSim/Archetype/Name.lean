import Std.Data.TreeMap
import ColumnSim.Text.Alphanumeric

/-! Archetype names: the last part of a path, without its arguments, in snake case. -/

namespace ColumnSim

structure ArchetypeName where
  text : String
deriving DecidableEq

namespace ArchetypeName

instance : Ord ArchetypeName := ⟨compareOn text⟩

instance : Std.TransOrd ArchetypeName := inferInstanceAs (Std.TransCmp (compareOn text))

instance : Std.LawfulEqOrd ArchetypeName where
  eq_of_compare {a b} h := by
    have h : compare a.text b.text = .eq := h
    have hr : a.text = b.text := Std.LawfulEqCmp.eq_of_compare h
    cases a; cases b; exact congrArg mk hr

def untilPath : List Char → List Char
  | ':' :: ':' :: _ => []
  | c :: cs => c :: untilPath cs
  | [] => []

def lastSegment (cs : List Char) : List Char := (untilPath cs.reverse).reverse

def withoutArguments (cs : List Char) : List Char := cs.takeWhile (· != '<')

structure Scan where
  written : List Char
  afterLower : Bool

namespace Scan

def start : Scan := ⟨[], false⟩

def separate : List Char → List Char
  | [] => []
  | '_' :: out => '_' :: out
  | c :: out => '_' :: c :: out

/-- Only the capitals of the Latin alphabet are lowered and start words. -/
def push (s : Scan) (c : Char) : Scan :=
  if c.isUpper then
    ⟨c.toLower :: if s.afterLower then '_' :: s.written else s.written, false⟩
  else if Text.isAlphanumeric c then ⟨c :: s.written, Text.isLowercase c || c.isDigit⟩
  else ⟨separate s.written, false⟩

def finish (s : Scan) : List Char := (s.written.dropWhile (· == '_')).reverse

end Scan

def snakeCase (cs : List Char) : List Char := (cs.foldl Scan.push .start).finish

def ofRaw (raw : String) : ArchetypeName :=
  ⟨String.ofList (snakeCase (lastSegment (withoutArguments raw.toList)))⟩

end ArchetypeName

end ColumnSim
