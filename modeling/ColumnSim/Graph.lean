import ColumnSim.Query

/-! Graphs: the links that a relation component stores, and folds over the links of each source. -/

namespace ColumnSim

structure Relation (R : Type) where
  schema : Schema
  source : schema.Value R → EntityId
  target : schema.Value R → EntityId

namespace Relation

variable {R : Type} {V : AssetKind → Type}

abbrev edgeSchema : Schema := ⟨"edge", .u64, [2]⟩

def edgeValue (source target : EntityId) : edgeSchema.Value R := #v[source.toElem, target.toElem]

def edge : Relation R where
  schema := edgeSchema
  source := fun (v : Vector UInt64 2) => .ofElem v[0]
  target := fun (v : Vector UInt64 2) => .ofElem v[1]

end Relation

structure Graph where
  links : List (EntityId × EntityId)

namespace Graph

def insertSource (e : EntityId) : List EntityId → List EntityId
  | [] => [e]
  | f :: fs => if e.raw < f.raw then e :: f :: fs else if e = f then f :: fs else f :: insertSource e fs

def sources (g : Graph) : List EntityId := (g.links.map (·.1)).foldr insertSource []

def targets (g : Graph) (e : EntityId) : List EntityId :=
  g.links.filterMap fun (source, target) => if source = e then some target else none

def size (g : Graph) : Nat := g.sources.length

def isEmpty (g : Graph) : Bool := g.links.isEmpty

def edgeCount (g : Graph) : Nat := g.links.length

variable {R : Type} {V : AssetKind → Type} {left right : List Schema}

def work? (g : Graph) (l : Query R left) (r : Query R right) (e : EntityId) :
    Option (Row R left × List (Row R right)) :=
  match l.row? e, (g.targets e).filterMap r.row? with
  | some row, t :: ts => some (row, t :: ts)
  | _, _ => none

def fold (g : Graph) (c : Client) (l : Query R left) (r : Query R right) {output : Schema}
    (start : output.Value R) (step : output.Value R → Row R left → Row R right → output.Value R) :
    ColumnWrite R output :=
  let work := g.sources.filterMap fun e => (g.work? l r e).map (e, ·)
  ⟨work.map (·.1), c.mapRows (fun (_, row, ts) => ts.foldl (fun acc t => step acc row t) start) work⟩

end Graph

def Store.graph {R : Type} {V : AssetKind → Type} (s : Store R V) (rel : Relation R) : Except Error Graph := do
  let holders ← s.query [rel.schema]
  let stamped := holders.rows.filterMap fun (e, v, _) =>
    (s.stamp? e rel.schema.id).map fun stamp => (stamp, rel.source v, rel.target v)
  return ⟨(sortBy (·.1) stamped).map (·.2)⟩

end ColumnSim
