import ColumnSim.Store.Insert
import ColumnSim.Store.Write

namespace ColumnSim

inductive Change (R : Type) (V : AssetKind → Type)
  | spawn (b : Bundle R)
  | spawnNamed (b : Bundle R) (name : String)
  | spawnBatch (bs : List (Bundle R))
  | attach (e : EntityId) (b : Bundle R)
  | write (schema : Schema) (entities : List EntityId) (values : List (schema.Value R))
  | insertAsset (kind : AssetKind) (content : V kind)
  | freeze

inductive Receipt
  | entity (e : EntityId)
  | entities (es : List EntityId)
  | asset (raw : Nat)
  | done
deriving DecidableEq

namespace Store

variable {R : Type} {V : AssetKind → Type}

def apply (s : Store R V) : Change R V → Outcome (Store R V) Receipt
  | .spawn b => .atomic s ((s.spawn b).map fun (e, s) => (.entity e, s))
  | .spawnNamed b name => .atomic s ((s.spawnNamed b name).map fun (e, s) => (.entity e, s))
  | .spawnBatch bs =>
    let (es, s) := s.spawnBatch bs
    (es.map .entities, s)
  | .attach e b => .atomic s ((s.attach e b).map (.done, ·))
  | .write schema es vs => .atomic s ((s.write schema es vs).map (.done, ·))
  | .insertAsset k content =>
    let (h, s) := s.insertAsset k content
    (.ok (.asset h.raw), s)
  | .freeze => (.ok .done, s.freeze)

def applyAll (s : Store R V) (changes : List (Change R V)) : Store R V :=
  changes.foldl (fun s change => (s.apply change).2) s

end Store

end ColumnSim
