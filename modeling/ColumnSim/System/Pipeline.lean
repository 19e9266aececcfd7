import ColumnSim.System.Basic

namespace ColumnSim.System

variable {R : Type} {V : AssetKind → Type}

def stages : System R V → List (System R V)
  | pipeline ss => ss
  | s => [s]

def chain (systems : List (System R V)) : System R V := pipeline (systems.flatMap stages)

def pipe (first second : System R V) : System R V := chain [first, second]

def append (front next : System R V) : System R V := pipeline (front.stages ++ next.stages)

def appendSome (front : System R V) : Option (System R V) → System R V
  | some next => front.append next
  | none => front

/-- Appends a system as one stage, a pipeline too. -/
def push (front stage : System R V) : System R V := pipeline (front.stages ++ [stage])

mutual

def inputs : System R V → List Schema
  | map m => m.inputs
  | fold f => f.inputs
  | procedure p => p.inputs
  | pipeline ss => firstInputs ss

def firstInputs : List (System R V) → List Schema
  | [] => []
  | s :: _ => inputs s

end

mutual

def outputs : System R V → List Schema
  | map m => [m.output]
  | fold f => [f.output]
  | procedure p => p.outputs
  | pipeline ss => lastOutputs [] ss

def lastOutputs (last : List Schema) : List (System R V) → List Schema
  | [] => last
  | s :: ss => lastOutputs (outputs s) ss

end

mutual

def referencedInputs : System R V → List Schema
  | map m => m.inputs
  | fold f => f.inputs
  | procedure p => p.inputs
  | pipeline ss => Schema.firstById [] (allReferencedInputs ss)

def allReferencedInputs : List (System R V) → List Schema
  | [] => []
  | s :: ss => referencedInputs s ++ allReferencedInputs ss

end

mutual

def effects : System R V → List Schema
  | map m => [m.output]
  | fold f => [f.output]
  | procedure p => p.outputs
  | pipeline ss => Schema.firstById [] (allEffects ss)

def allEffects : List (System R V) → List Schema
  | [] => []
  | s :: ss => effects s ++ allEffects ss

end

end ColumnSim.System
