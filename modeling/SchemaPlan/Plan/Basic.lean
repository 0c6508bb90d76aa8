import SchemaPlan.Closure.State
import SchemaPlan.Delivery.Classification
import SchemaPlan.Schedule.Basic

/-!
# Migration plans

A plan holds the schedule of every object in reach of the roots, with the decision about each.
-/

set_option autoImplicit false

namespace SchemaPlan

/-- What is told about the closure behind a plan. -/
structure ClosureStats where
  iterations : Nat
  objects : Nat
  edges : Nat
  missing : Nat
deriving DecidableEq, Repr

/-- A migration plan. -/
structure MigrationPlan where
  /-- Every object with its status. -/
  schedule : Schedule
  /-- The records of the graph, each with the status of its object. -/
  classifiedEdges : List Edge
  summary : Summary
  closure : ClosureStats
  unresolved : List Unresolved
deriving DecidableEq

/-- What is told about a closure. -/
def Closure.stats (closure : Closure) : ClosureStats :=
  ⟨closure.iterations, closure.objects.length, closure.edges.length, closure.missing.size⟩

/-- The schedule of the objects that are delivered. -/
def MigrationPlan.deliverable (plan : MigrationPlan) : Schedule :=
  plan.schedule.restrictedTo [.install]

end SchemaPlan
