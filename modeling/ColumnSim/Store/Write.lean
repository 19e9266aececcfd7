import ColumnSim.Store.Basic

namespace ColumnSim

namespace Store

variable {R : Type} {V : AssetKind → Type}

def target (s : Store R V) (schema : Schema) (e : EntityId) : Except Error Placement :=
  if s.entities.contains e then
    match s.locate? e schema.id with
    | some p => .ok p
    | none => .error (.missingOutput e schema.name)
  else .error (.neverSpawned e)

def set (s : Store R V) (schema : Schema) (p : Placement) (v : schema.Value R) : Store R V :=
  { s with tables := s.tables.modify p.table fun t => t.set schema.id p.row (.ofValue v) }

def setAll (s : Store R V) (schema : Schema) (entries : List (Placement × schema.Value R)) : Store R V :=
  entries.foldl (fun s (p, v) => s.set schema p v) s

/-- Every entity is located before the first value is set, so that a failing write changes nothing. -/
def write (s : Store R V) (schema : Schema) (entities : List EntityId) (values : List (schema.Value R)) :
    Except Error (Store R V) := do
  if entities.length ≠ values.length then
    throw (.rowCountMismatch schema.name entities.length values.length)
  s.checkSchema schema
  let targets ← entities.mapM (s.target schema)
  return s.setAll schema (targets.zip values)

end Store

structure ColumnWrite (R : Type) (schema : Schema) where
  entities : List EntityId
  values : List (schema.Value R)

namespace ColumnWrite

variable {R : Type} {V : AssetKind → Type} {schema : Schema}

def size (w : ColumnWrite R schema) : Nat := w.entities.length

def isEmpty (w : ColumnWrite R schema) : Bool := w.entities.isEmpty

def apply (w : ColumnWrite R schema) (s : Store R V) : Except Error (Store R V) :=
  if w.entities.isEmpty then .ok s else s.write schema w.entities w.values

end ColumnWrite

end ColumnSim
