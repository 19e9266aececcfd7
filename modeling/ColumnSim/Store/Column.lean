import ColumnSim.Store.Basic

namespace ColumnSim

structure ColumnArray (R : Type) where
  schema : Schema
  entities : List EntityId
  elems : Buffer R

namespace ColumnArray

variable {R : Type} {V : AssetKind → Type}

def size (c : ColumnArray R) : Nat := c.entities.length

def isEmpty (c : ColumnArray R) : Bool := c.entities.isEmpty

def pieces {A : Type} (n : Nat) : Nat → List A → List (List A)
  | 0, _ => []
  | count + 1, xs => xs.take n :: pieces n count (xs.drop n)

/-- The elements row by row, if they are of kind `k`. Values without elements give no rows. -/
def values? (c : ColumnArray R) (k : ElemKind) : Option (List (List (k.Elem R))) :=
  match c.elems.view k with
  | none => none
  | some xs =>
    let n := c.schema.layout.width
    if n = 0 then some [] else some (pieces n (xs.size / n) xs.toList)

def extend (a : ColumnArray R) (c : ComponentId) (table : Table R) : ColumnArray R :=
  match table.column? c with
  | none => a
  | some column =>
    { a with
      entities := a.entities ++ table.entities.toList
      elems :=
        match a.elems.extend column.data 0 (table.size * a.schema.layout.width) with
        | .appended b => b
        | _ => a.elems }

end ColumnArray

namespace Store

variable {R : Type} {V : AssetKind → Type}

def columnArray (s : Store R V) (c : ComponentId) : Except Error (ColumnArray R) :=
  match s.schema? c with
  | none => .error (.unresolvedComponent ("#" ++ c.hex))
  | some schema =>
    let tables := (s.holdersOf c).filterMap fun t => s.tables[t]?
    .ok (tables.foldl (·.extend c) ⟨schema, [], .empty schema.layout.kind⟩)

def schemas (s : Store R V) : List Schema :=
  Schema.firstById [] (s.tables.toList.flatMap Table.schemas)

end Store

end ColumnSim
