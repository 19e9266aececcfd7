import ColumnSim.Component.Id
import ColumnSim.Component.Layout

namespace ColumnSim

structure Schema where
  name : String
  layout : Layout
deriving DecidableEq

namespace Schema

abbrev scalar (name : String) (kind : ElemKind) : Schema := ⟨name, kind, []⟩

def id (s : Schema) : ComponentId := .ofName s.name

abbrev Value (R : Type) (s : Schema) := s.layout.Value R

def pack {R : Type} {name : String} {kind : ElemKind} (x : kind.Elem R) : (scalar name kind).Value R := #v[x]

def unpack {R : Type} {name : String} {kind : ElemKind} (v : (scalar name kind).Value R) : kind.Elem R :=
  let elems : Vector (kind.Elem R) 1 := v
  elems[0]

def firstById (seen : List ComponentId) : List Schema → List Schema
  | [] => []
  | s :: ss => if s.id ∈ seen then firstById seen ss else s :: firstById (s.id :: seen) ss

theorem mem_of_firstById {seen : List ComponentId} {ss : List Schema} {s : Schema}
    (h : s ∈ firstById seen ss) : s ∈ ss ∧ s.id ∉ seen := by
  induction ss generalizing seen with
  | nil => simp [firstById] at h
  | cons t ss ih =>
    unfold firstById at h
    split at h
    · exact ⟨.tail _ (ih h).1, (ih h).2⟩
    · rename_i ht
      rcases List.mem_cons.1 h with rfl | h
      · exact ⟨.head _, ht⟩
      · exact ⟨.tail _ (ih h).1, fun hs => (ih h).2 (.tail _ hs)⟩

def repeated? (seen : List ComponentId) : List Schema → Option Schema
  | [] => none
  | s :: ss => if s.id ∈ seen then some s else repeated? (s.id :: seen) ss

end Schema

end ColumnSim
