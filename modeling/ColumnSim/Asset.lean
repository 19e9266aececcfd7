import ColumnSim.Component.Schema

/-! Assets: values kept beside the columns, named by handles that are stored as components. -/

namespace ColumnSim

/-- A type of assets: its identity, and the name that it gives to its handles. Types may share a name. -/
structure AssetKind where
  id : Nat
  name : String
deriving DecidableEq

structure Handle (k : AssetKind) where
  raw : Nat

namespace Handle

variable {k : AssetKind}

abbrev schema (k : AssetKind) : Schema := .scalar ("asset_handle_" ++ k.name) .u64

def toValue {R : Type} (h : Handle k) : (schema k).Value R := Schema.pack (UInt64.ofNat h.raw)

def ofValue {R : Type} (v : (schema k).Value R) : Handle k :=
  let raw : UInt64 := Schema.unpack v
  ⟨raw.toNat⟩

def text (h : Handle k) : String := "Handle(" ++ toString h.raw ++ ")"

end Handle

abbrev Tokens (_ : AssetKind) : Type := UInt64

structure Asset (V : AssetKind → Type) where
  kind : AssetKind
  content : V kind

namespace Asset

variable {V : AssetKind → Type}

def downcast? (a : Asset V) (k : AssetKind) : Option (V k) :=
  if h : a.kind = k then some (h ▸ a.content) else none

theorem downcast?_self (k : AssetKind) (content : V k) : downcast? ⟨k, content⟩ k = some content := by
  simp [downcast?]

theorem downcast?_of_ne {k k' : AssetKind} (content : V k) (h : k' ≠ k) : downcast? ⟨k, content⟩ k' = none :=
  dif_neg h.symm

end Asset

structure Assets (V : AssetKind → Type) where
  entries : Array (Asset V)

namespace Assets

variable {V : AssetKind → Type}

def empty : Assets V := ⟨#[]⟩

def size (a : Assets V) : Nat := a.entries.size

def isEmpty (a : Assets V) : Bool := a.entries.isEmpty

def insert (a : Assets V) (k : AssetKind) (content : V k) : Handle k × Assets V :=
  (⟨a.entries.size⟩, ⟨a.entries.push ⟨k, content⟩⟩)

def get? {k : AssetKind} (a : Assets V) (h : Handle k) : Option (V k) :=
  a.entries[h.raw]?.bind (·.downcast? k)

end Assets

end ColumnSim
