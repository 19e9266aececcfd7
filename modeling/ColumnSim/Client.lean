import ColumnSim.Text.Span

/-! Clients: where the work on rows runs. They change no result. -/

namespace ColumnSim

structure Config where
  threshold : Nat
  logStages : Bool

namespace Config

def default : Config := ⟨1024, false⟩

def thresholdBound : Nat := 18446744073709551616

def threshold? (text : String) : Option Nat :=
  let digits := match Text.trim text.toList with
    | '+' :: cs => cs
    | cs => cs
  if digits.isEmpty || !digits.all Char.isDigit then none
  else
    let n := digits.foldl (fun n c => 10 * n + (c.toNat - 48)) 0
    if n < thresholdBound then some n else none

def ofEnvironment (text : Option String) : Config :=
  match text.bind threshold? with
  | some threshold => { default with threshold }
  | none => default

end Config

inductive Target
  | cpu
  | parallel
deriving DecidableEq

structure Client where
  target : Target
  config : Config

namespace Client

def default : Client := ⟨.cpu, .default⟩

def splits (c : Client) (n : Nat) : Bool := c.target = .parallel && c.config.threshold ≤ n

def mapRows {α β : Type} (c : Client) (f : α → β) (rows : List α) : List β :=
  if c.splits rows.length then
    let (front, back) := rows.splitAt (rows.length / 2)
    front.map f ++ back.map f
  else rows.map f

theorem mapRows_eq_map {α β : Type} (c : Client) (f : α → β) (rows : List α) :
    c.mapRows f rows = rows.map f := by
  unfold mapRows
  split
  · simp [List.splitAt_eq]
  · rfl

end Client

end ColumnSim
