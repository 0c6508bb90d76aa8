import SchemaPlan.Config.Layers
import SchemaPlan.Database.RawRow
import SchemaPlan.Database.Workspace
import SchemaPlan.Fault
import SchemaPlan.Json.Reader
import SchemaPlan.Plan.Form
import SchemaPlan.Proofs.Closure.Agreement
import SchemaPlan.Proofs.Closure.Completeness
import SchemaPlan.Proofs.Plan.Safety
import SchemaPlan.Proofs.Closure.Preservation
import SchemaPlan.Proofs.Closure.Absence
import SchemaPlan.Proofs.Closure.Shape
import SchemaPlan.Proofs.Closure.Log
import SchemaPlan.Proofs.Closure.Meaning
import SchemaPlan.Proofs.Closure.Truth
import SchemaPlan.Proofs.Closure.Resumption
import SchemaPlan.Proofs.Closure.Convergence
import SchemaPlan.Proofs.Delivery.Statuses
import SchemaPlan.Proofs.Graph.Components
import SchemaPlan.Proofs.Graph.History
import SchemaPlan.Proofs.Graph.Keys
import SchemaPlan.Proofs.Graph.Description
import SchemaPlan.Proofs.Graph.Refusal
import SchemaPlan.Proofs.Graph.Renumbering
import SchemaPlan.Proofs.Plan.Progress
import SchemaPlan.Proofs.Database.Command
import SchemaPlan.Proofs.Database.EdgeLog
import SchemaPlan.Proofs.Database.Import
import SchemaPlan.Proofs.Closure.Interruption
import SchemaPlan.Proofs.Closure.Replay
import SchemaPlan.Proofs.Closure.Tables
import SchemaPlan.Proofs.Database.SavedPlan
import SchemaPlan.Proofs.Delivery.Widening
import SchemaPlan.Proofs.Graph.Containment
import SchemaPlan.Proofs.Reference.Resolution
import SchemaPlan.Proofs.Schedule.Turns
import SchemaPlan.Proofs.Source.Hidden
import SchemaPlan.Proofs.Source.NormalForm
import SchemaPlan.Proofs.Reference.CallArguments
import SchemaPlan.Proofs.Reference.Confirmation
import SchemaPlan.Proofs.Reference.TableList
import SchemaPlan.Proofs.Edge.Backfill
import SchemaPlan.Proofs.Closure.Storage
import SchemaPlan.Proofs.Closure.Ownership
import SchemaPlan.Proofs.Config.Layers
import SchemaPlan.Proofs.Config.Targets
import SchemaPlan.Proofs.Schedule.Restriction
