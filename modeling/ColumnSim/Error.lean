import ColumnSim.Component.Layout
import ColumnSim.Entity

namespace ColumnSim

inductive Error
  | duplicateComponent (archetype component : String)
  | unresolvedComponent (component : String)
  | archetypeMismatch (archetype : String)
  | typeMismatch (component : String) (expected found : Layout)
  | alreadyHeld (entity : EntityId) (component : String)
  | rowCountMismatch (component : String) (entities values : Nat)
  | frozen (archetype : String)
  | missingOutput (entity : EntityId) (component : String)
  | neverSpawned (entity : EntityId)
  | tickLimit (limit : Nat)
  | invalidTimeStep
deriving DecidableEq

namespace Error

def quote (name : String) : String := "`" ++ name ++ "`"

def message : Error → String
  | duplicateComponent a c => "archetype " ++ quote a ++ " declares component " ++ quote c ++ " more than once"
  | unresolvedComponent c => "component " ++ quote c ++ " is not stored in any archetype"
  | archetypeMismatch a => "archetype " ++ quote a ++ " was already declared with a different component set"
  | typeMismatch c expected found =>
    "component " ++ quote c ++ " is registered as " ++ expected.describe ++ ", found " ++ found.describe
  | alreadyHeld e c => e.text ++ " already holds component " ++ quote c
  | rowCountMismatch c entities values =>
    toString values ++ " values supplied for " ++ toString entities ++ " entities when writing " ++ quote c
  | frozen a => "store schema is frozen after build; cannot add rows to " ++ quote a
  | missingOutput e c => e.text ++ " has never held component " ++ quote c
  | neverSpawned e => e.text ++ " was never spawned"
  | tickLimit n => "tick limit of " ++ toString n ++ " reached"
  | invalidTimeStep => "Time step must be positive and finite"

end Error

end ColumnSim
