import ColumnSim.Graph

/-! Systems: transformations of the store with declared inputs and outputs. -/

namespace ColumnSim

structure MapSystem (R : Type) where
  name : String
  inputs : List Schema
  output : Schema
  f : Row R inputs → output.Value R

structure FoldSystem (R : Type) where
  name : String
  relation : Relation R
  left : List Schema
  right : List Schema
  output : Schema
  start : output.Value R
  step : output.Value R → Row R left → Row R right → output.Value R

/-- Any operation on the store, with a signature that is taken on trust. -/
structure Procedure (R : Type) (V : AssetKind → Type) where
  name : String
  inputs : List Schema
  outputs : List Schema
  body : Client → Store R V → Outcome (Store R V) Unit

namespace MapSystem

variable {R : Type} {V : AssetKind → Type}

def defaultName (inputs : List Schema) (output : Schema) : String :=
  "map(" ++ String.intercalate ", " (inputs.map (·.name)) ++ " -> " ++ output.name ++ ")"

def evaluate (m : MapSystem R) (c : Client) (s : Store R V) : Except Error (ColumnWrite R m.output) := do
  let q ← s.query m.inputs
  return q.map c m.f

def apply (m : MapSystem R) (c : Client) (s : Store R V) : Except Error (Store R V) := do
  let w ← m.evaluate c s
  w.apply s

end MapSystem

namespace FoldSystem

variable {R : Type} {V : AssetKind → Type}

def defaultName (relation output : Schema) : String :=
  "edge_fold(" ++ relation.name ++ " -> " ++ output.name ++ ")"

def inputs (f : FoldSystem R) : List Schema :=
  Schema.firstById [] (f.relation.schema :: f.left ++ f.right)

def evaluate (f : FoldSystem R) (c : Client) (s : Store R V) : Except Error (ColumnWrite R f.output) := do
  let g ← s.graph f.relation
  let l ← s.query f.left
  let r ← s.query f.right
  return g.fold c l r f.start f.step

def apply (f : FoldSystem R) (c : Client) (s : Store R V) : Except Error (Store R V) := do
  let w ← f.evaluate c s
  w.apply s

end FoldSystem

inductive System (R : Type) (V : AssetKind → Type)
  | map (m : MapSystem R)
  | fold (f : FoldSystem R)
  | procedure (p : Procedure R V)
  | pipeline (stages : List (System R V))

namespace System

variable {R : Type} {V : AssetKind → Type}

def name : System R V → String
  | map m => m.name
  | fold f => f.name
  | procedure p => p.name
  | pipeline _ => "pipeline"

mutual

def run (c : Client) : System R V → Store R V → Outcome (Store R V) Unit
  | map m, s => .ofStep s (m.apply c s)
  | fold f, s => .ofStep s (f.apply c s)
  | procedure p, s => p.body c s
  | pipeline stages, s => runStages c stages s
termination_by structural system => system

def runStages (c : Client) : List (System R V) → Store R V → Outcome (Store R V) Unit
  | [], s => (.ok (), s)
  | stage :: stages, s => (run c stage s).andThen (runStages c stages)
termination_by structural stages => stages

end

theorem runStages_eq_inOrder (c : Client) (stages : List (System R V)) (s : Store R V) :
    runStages c stages s = Outcome.inOrder (stages.map (run c)) s := by
  induction stages generalizing s with
  | nil => rfl
  | cons stage stages ih => simp only [runStages, List.map_cons, Outcome.inOrder, funext ih]

end System

end ColumnSim
