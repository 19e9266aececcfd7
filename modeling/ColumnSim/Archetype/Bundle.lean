import ColumnSim.Archetype.Name
import ColumnSim.Component.Schema
import ColumnSim.Outcome

namespace ColumnSim

structure ComponentValue (R : Type) where
  schema : Schema
  value : schema.Value R

namespace ComponentValue

variable {R : Type}

def ofBuffer (s : Schema) (b : Buffer R) : Except Error (ComponentValue R) :=
  match b.value? s.layout with
  | some v => .ok ⟨s, v⟩
  | none => .error (.typeMismatch s.name s.layout b.layout)

def buffer (v : ComponentValue R) : Buffer R := .ofValue v.value

end ComponentValue

structure Bundle (R : Type) where
  name : ArchetypeName
  values : List (ComponentValue R)

namespace Bundle

variable {R : Type}

def empty (raw : String) : Bundle R := ⟨.ofRaw raw, []⟩

def push (b : Bundle R) (v : ComponentValue R) : Bundle R := { b with values := b.values ++ [v] }

def add (b : Bundle R) (s : Schema) (v : s.Value R) : Bundle R := b.push ⟨s, v⟩

def schemas (b : Bundle R) : List Schema := b.values.map (·.schema)

def validate (b : Bundle R) : Except Error Unit :=
  match Schema.repeated? [] b.schemas with
  | some s => .error (.duplicateComponent b.name.text s.name)
  | none => .ok ()

end Bundle

end ColumnSim
