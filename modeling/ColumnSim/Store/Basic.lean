import ColumnSim.Asset
import ColumnSim.Store.Table

/-! The store: tables, the indices over them, and the reads that go through the indices. -/

namespace ColumnSim

structure Placement where
  table : Nat
  row : Nat
deriving DecidableEq

structure Store (R : Type) (V : AssetKind → Type) where
  entities : Allocator
  tables : Array (Table R)
  archetypes : Std.TreeMap ArchetypeName Nat
  registry : Std.TreeMap ComponentId Schema
  holders : Std.TreeMap ComponentId (List Nat)
  placements : Std.TreeMap EntityId (List Placement)
  names : Std.TreeMap EntityId String
  nextStamp : Nat
  frozen : Bool
  assets : Assets V

namespace Store

variable {R : Type} {V : AssetKind → Type}

def empty : Store R V where
  entities := .empty
  tables := #[]
  archetypes := ∅
  registry := ∅
  holders := ∅
  placements := ∅
  names := ∅
  nextStamp := 0
  frozen := false
  assets := .empty

def holdersOf (s : Store R V) (c : ComponentId) : List Nat := s.holders.getD c []

def hasComponent (s : Store R V) (c : ComponentId) : Bool := s.holders.contains c

def schema? (s : Store R V) (c : ComponentId) : Option Schema := s.registry[c]?

def checkSchema (s : Store R V) (schema : Schema) : Except Error Unit :=
  match s.schema? schema.id with
  | some registered =>
    if registered.layout = schema.layout then .ok ()
    else .error (.typeMismatch registered.name registered.layout schema.layout)
  | none => .ok ()

def placementsOf (s : Store R V) (e : EntityId) : List Placement := s.placements.getD e []

def archetypeNames (s : Store R V) : List ArchetypeName := s.tables.toList.map (·.name)

def archetypeSchemas? (s : Store R V) (name : ArchetypeName) : Option (List Schema) := do
  let t ← s.archetypes[name]?
  let table ← s.tables[t]?
  some table.schemas

def stores (s : Store R V) (c : ComponentId) (p : Placement) : Bool :=
  match s.tables[p.table]? with
  | some table => table.hasColumn c
  | none => false

def locate? (s : Store R V) (e : EntityId) (c : ComponentId) : Option Placement :=
  (s.placementsOf e).find? (s.stores c)

def value? (s : Store R V) (schema : Schema) (e : EntityId) : Option (schema.Value R) := do
  let p ← s.locate? e schema.id
  let table ← s.tables[p.table]?
  let column ← table.column? schema.id
  column.value? p.row schema.layout

def get (s : Store R V) (schema : Schema) (e : EntityId) : Except Error (Option (schema.Value R)) := do
  s.checkSchema schema
  return s.value? schema e

def stamp? (s : Store R V) (e : EntityId) (c : ComponentId) : Option Nat := do
  let p ← s.locate? e c
  let table ← s.tables[p.table]?
  table.stamps[p.row]?

def entitiesWith (s : Store R V) (c : ComponentId) : List EntityId :=
  (s.holdersOf c).flatMap fun t =>
    match s.tables[t]? with
    | some table => table.entities.toList
    | none => []

def componentSize (s : Store R V) (c : ComponentId) : Nat :=
  (s.holdersOf c).foldr (fun t n => ((s.tables[t]?).map Table.size).getD 0 + n) 0

def nameOf? (s : Store R V) (e : EntityId) : Option String := s.names[e]?

def find? (s : Store R V) (name : String) : Option EntityId :=
  (s.names.toList.find? fun entry => entry.2 = name).map (·.1)

def insertAsset (s : Store R V) (k : AssetKind) (content : V k) : Handle k × Store R V :=
  let (h, assets) := s.assets.insert k content
  (h, { s with assets })

def freeze (s : Store R V) : Store R V := { s with frozen := true }

end Store

end ColumnSim
