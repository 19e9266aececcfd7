import ColumnSim.Archetype.Bundle

namespace ColumnSim

structure Column (R : Type) where
  schema : Schema
  data : Buffer R

namespace Column

variable {R : Type}

def empty (s : Schema) : Column R := ⟨s, .empty s.layout.kind⟩

def width (c : Column R) : Nat := c.schema.layout.width

def push (c : Column R) (cell : Buffer R) : Column R := { c with data := c.data.append cell }

def cell? (c : Column R) (row : Nat) : Option (Buffer R) :=
  c.data.slice? (row * c.width) ((row + 1) * c.width)

def value? (c : Column R) (row : Nat) (l : Layout) : Option (l.Value R) :=
  (c.cell? row).bind (·.value? l)

def set (c : Column R) (row : Nat) (cell : Buffer R) : Column R :=
  { c with data := c.data.overwrite cell (row * c.width) ((row + 1) * c.width) }

end Column

/-- The rows of a table stand in the order of their insertion; stamps give their place among all rows.
Columns are found by component in `index`, and the row that an entity was given last in `rows`. -/
structure Table (R : Type) where
  name : ArchetypeName
  columns : List (Column R)
  index : Std.TreeMap ComponentId Nat
  entities : Array EntityId
  stamps : Array Nat
  rows : Std.TreeMap EntityId Nat

namespace Table

variable {R : Type}

def indexOf (schemas : List Schema) : Std.TreeMap ComponentId Nat :=
  schemas.zipIdx.foldl (fun index (s, i) => index.insert s.id i) ∅

def empty (name : ArchetypeName) (schemas : List Schema) : Table R :=
  ⟨name, schemas.map .empty, indexOf schemas, #[], #[], ∅⟩

def size (t : Table R) : Nat := t.entities.size

def schemas (t : Table R) : List Schema := t.columns.map (·.schema)

def column? (t : Table R) (c : ComponentId) : Option (Column R) := do
  let i ← t.index[c]?
  t.columns[i]?

def hasColumn (t : Table R) (c : ComponentId) : Bool := t.index.contains c

def rowOf? (t : Table R) (e : EntityId) : Option Nat := t.rows[e]?

def push (t : Table R) (e : EntityId) (stamp : Nat) (values : List (ComponentValue R)) : Table R :=
  { t with
    columns := List.zipWith (fun col v => col.push v.buffer) t.columns values
    entities := t.entities.push e
    stamps := t.stamps.push stamp
    rows := t.rows.insert e t.size }

def set (t : Table R) (c : ComponentId) (row : Nat) (cell : Buffer R) : Table R :=
  { t with
    columns :=
      match t.index[c]? with
      | some i => t.columns.modify i (·.set row cell)
      | none => t.columns }

end Table

end ColumnSim
