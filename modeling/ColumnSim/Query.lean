import ColumnSim.Client
import ColumnSim.Sort
import ColumnSim.Store.Write

namespace ColumnSim

abbrev Row (R : Type) : List Schema → Type
  | [] => Unit
  | s :: ss => s.Value R × Row R ss

namespace Row

variable {R : Type} {V : AssetKind → Type}

def read? (read : (s : Schema) → Option (s.Value R)) : (ss : List Schema) → Option (Row R ss)
  | [] => some ()
  | s :: ss =>
    match read s, read? read ss with
    | some v, some row => some (v, row)
    | _, _ => none

def cells : (ss : List Schema) → Row R ss → List (Buffer R)
  | [], _ => []
  | _ :: ss, (v, row) => .ofValue v :: cells ss row

end Row

structure Query (R : Type) (inputs : List Schema) where
  rows : List (EntityId × Row R inputs)

namespace Store

variable {R : Type} {V : AssetKind → Type}

/-- Reads from the table at hand if it stores the component, otherwise through the entity. -/
def valueFrom? (s : Store R V) (table : Table R) (row : Nat) (e : EntityId) (schema : Schema) :
    Option (schema.Value R) :=
  match (table.column? schema.id).filter (·.data.kind = schema.layout.kind) with
  | some column => column.value? row schema.layout
  | none => s.value? schema e

def joinTable (s : Store R V) (inputs : List Schema) (t : Nat) : List (EntityId × Row R inputs) :=
  match s.tables[t]? with
  | none => []
  | some table =>
    table.entities.toList.zipIdx.filterMap fun (e, row) =>
      (Row.read? (s.valueFrom? table row e) inputs).map (e, ·)

def joinBy (s : Store R V) (inputs : List Schema) (driver : ComponentId) : List (EntityId × Row R inputs) :=
  sortBy (·.1.raw) ((s.holdersOf driver).flatMap (s.joinTable inputs))

def join (s : Store R V) (inputs : List Schema) : List (EntityId × Row R inputs) :=
  match leastBy? s.componentSize (inputs.map Schema.id) with
  | none => []
  | some driver => s.joinBy inputs driver

def query (s : Store R V) (inputs : List Schema) : Except Error (Query R inputs) := do
  inputs.forM s.checkSchema
  return ⟨s.join inputs⟩

end Store

namespace Query

variable {R : Type} {V : AssetKind → Type} {inputs : List Schema}

def size (q : Query R inputs) : Nat := q.rows.length

def isEmpty (q : Query R inputs) : Bool := q.rows.isEmpty

def entities (q : Query R inputs) : List EntityId := q.rows.map (·.1)

def row? (q : Query R inputs) (e : EntityId) : Option (Row R inputs) :=
  (searchBy? (·.1.raw) e.raw q.rows).map (·.2)

def map (q : Query R inputs) (c : Client) {output : Schema} (f : Row R inputs → output.Value R) :
    ColumnWrite R output :=
  ⟨q.entities, c.mapRows (fun entry => f entry.2) q.rows⟩

end Query

end ColumnSim
