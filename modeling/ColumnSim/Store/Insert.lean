import ColumnSim.Store.Basic

namespace ColumnSim.Store

variable {R : Type} {V : AssetKind → Type}

def checkValue (s : Store R V) (target : Option EntityId) (v : ComponentValue R) : Except Error Unit := do
  s.checkSchema v.schema
  match target with
  | some e =>
    if (s.locate? e v.schema.id).isSome then .error (.alreadyHeld e v.schema.name) else .ok ()
  | none => .ok ()

def checkArchetype (s : Store R V) (b : Bundle R) : Except Error Unit :=
  match s.archetypeSchemas? b.name with
  | some schemas => if schemas = b.schemas then .ok () else .error (.archetypeMismatch b.name.text)
  | none => .ok ()

def check (s : Store R V) (target : Option EntityId) (b : Bundle R) : Except Error Unit := do
  if s.frozen then throw (.frozen b.name.text)
  b.validate
  b.values.forM (s.checkValue target)
  s.checkArchetype b

def registerAll (registry : Std.TreeMap ComponentId Schema) (schemas : List Schema) :
    Std.TreeMap ComponentId Schema :=
  schemas.foldl (fun registry schema => registry.insertIfNew schema.id schema) registry

def addHolder (holders : Std.TreeMap ComponentId (List Nat)) (t : Nat) (schemas : List Schema) :
    Std.TreeMap ComponentId (List Nat) :=
  schemas.foldl (fun holders schema => holders.insert schema.id (holders.getD schema.id [] ++ [t])) holders

def addTable (s : Store R V) (name : ArchetypeName) (schemas : List Schema) : Store R V :=
  { s with
    tables := s.tables.push (.empty name schemas)
    archetypes := s.archetypes.insert name s.tables.size
    registry := registerAll s.registry schemas
    holders := addHolder s.holders s.tables.size schemas }

def tableFor (s : Store R V) (b : Bundle R) : Nat × Store R V :=
  match s.archetypes[b.name]? with
  | some t => (t, s)
  | none => (s.tables.size, s.addTable b.name b.schemas)

def pushRow (s : Store R V) (t : Nat) (e : EntityId) (values : List (ComponentValue R)) : Store R V :=
  let row := ((s.tables[t]?).map Table.size).getD 0
  { s with
    tables := s.tables.modify t fun table => table.push e s.nextStamp values
    placements := s.placements.insert e (s.placementsOf e ++ [⟨t, row⟩])
    nextStamp := s.nextStamp + 1 }

def insert (s : Store R V) (e : EntityId) (b : Bundle R) : Store R V :=
  let (t, s) := s.tableFor b
  s.pushRow t e b.values

def spawn (s : Store R V) (b : Bundle R) : Except Error (EntityId × Store R V) := do
  s.check none b
  let (e, entities) := s.entities.allocate
  return (e, { s with entities }.insert e b)

def spawnNamed (s : Store R V) (b : Bundle R) (name : String) : Except Error (EntityId × Store R V) := do
  let (e, s) ← s.spawn b
  return (e, { s with names := s.names.insert e name })

def spawnBatch (s : Store R V) : List (Bundle R) → Outcome (Store R V) (List EntityId)
  | [] => (.ok [], s)
  | b :: bs =>
    match s.spawn b with
    | .error e => (.error e, s)
    | .ok (e, s) =>
      match s.spawnBatch bs with
      | (.ok es, s) => (.ok (e :: es), s)
      | (.error e, s) => (.error e, s)

def attach (s : Store R V) (e : EntityId) (b : Bundle R) : Except Error (Store R V) := do
  if !s.entities.contains e then throw (.neverSpawned e)
  s.check (some e) b
  return s.insert e b

end ColumnSim.Store
