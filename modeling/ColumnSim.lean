import ColumnSim.Archetype.Bundle
import ColumnSim.Archetype.Name
import ColumnSim.Asset
import ColumnSim.Client
import ColumnSim.Component.Id
import ColumnSim.Component.Layout
import ColumnSim.Component.Schema
import ColumnSim.Decimal
import ColumnSim.Element
import ColumnSim.Entity
import ColumnSim.Error
import ColumnSim.Formula
import ColumnSim.Globals
import ColumnSim.Graph
import ColumnSim.Outcome
import ColumnSim.Proofs.Acceptance
import ColumnSim.Proofs.Adjacency
import ColumnSim.Proofs.Alike
import ColumnSim.Proofs.Arrival
import ColumnSim.Proofs.Assembly
import ColumnSim.Proofs.AttachOrder
import ColumnSim.Proofs.BodyParts
import ColumnSim.Proofs.BodyStep
import ColumnSim.Proofs.Build
import ColumnSim.Proofs.CanonicalName
import ColumnSim.Proofs.Capitals
import ColumnSim.Proofs.Cell
import ColumnSim.Proofs.Column
import ColumnSim.Proofs.Composition
import ColumnSim.Proofs.Decoding
import ColumnSim.Proofs.Description
import ColumnSim.Proofs.Determined
import ColumnSim.Proofs.Energy
import ColumnSim.Proofs.Evaluation
import ColumnSim.Proofs.Exact
import ColumnSim.Proofs.Extension
import ColumnSim.Proofs.Failure
import ColumnSim.Proofs.FirstById
import ColumnSim.Proofs.Fold
import ColumnSim.Proofs.Frozen
import ColumnSim.Proofs.Globals
import ColumnSim.Proofs.Handles
import ColumnSim.Proofs.History
import ColumnSim.Proofs.Holdings
import ColumnSim.Proofs.Independence
import ColumnSim.Proofs.Insert
import ColumnSim.Proofs.Join
import ColumnSim.Proofs.Latest
import ColumnSim.Proofs.Leaves
import ColumnSim.Proofs.Links
import ColumnSim.Proofs.Lowest
import ColumnSim.Proofs.Map
import ColumnSim.Proofs.Match
import ColumnSim.Proofs.Membership
import ColumnSim.Proofs.Mismatch
import ColumnSim.Proofs.Mixing
import ColumnSim.Proofs.NearNames
import ColumnSim.Proofs.Outline
import ColumnSim.Proofs.Placement
import ColumnSim.Proofs.Plan
import ColumnSim.Proofs.Reachable
import ColumnSim.Proofs.ReadBack
import ColumnSim.Proofs.ReadOrder
import ColumnSim.Proofs.Results
import ColumnSim.Proofs.RigidBody
import ColumnSim.Proofs.Runs
import ColumnSim.Proofs.Samples
import ColumnSim.Proofs.Shape
import ColumnSim.Proofs.Signature
import ColumnSim.Proofs.SnakeCase
import ColumnSim.Proofs.Sort
import ColumnSim.Proofs.Sparing
import ColumnSim.Proofs.Spawning
import ColumnSim.Proofs.StaleForce
import ColumnSim.Proofs.StepSource
import ColumnSim.Proofs.Table
import ColumnSim.Proofs.Tick
import ColumnSim.Proofs.TickCount
import ColumnSim.Proofs.TickLimit
import ColumnSim.Proofs.TimeStep
import ColumnSim.Proofs.Translation
import ColumnSim.Proofs.Valid
import ColumnSim.Proofs.Write
import ColumnSim.Proofs.WriteOutcome
import ColumnSim.Query
import ColumnSim.Random
import ColumnSim.Simulation
import ColumnSim.SixDof
import ColumnSim.Sort
import ColumnSim.Spatial.Body
import ColumnSim.Spatial.Inertia
import ColumnSim.Spatial.Motion
import ColumnSim.Spatial.Quaternion
import ColumnSim.Spatial.Vector
import ColumnSim.Store.Basic
import ColumnSim.Store.Change
import ColumnSim.Store.Column
import ColumnSim.Store.Insert
import ColumnSim.Store.Table
import ColumnSim.Store.Write
import ColumnSim.System.Basic
import ColumnSim.System.Pipeline
import ColumnSim.Text.Alphanumeric
import ColumnSim.Text.Span
import ColumnSim.TimeStep
