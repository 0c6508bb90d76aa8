import SchemaPlan.Collection.Sorting
import SchemaPlan.Error
import SchemaPlan.Graph.Basic

/-!
# Schedules

A schedule lists the same objects twice: for rolling back, dependents first, and for installing,
dependencies first.  Both lists are numbered from one.

An object is ready for rollback once every object that requires it has been taken.  Of the ready
objects the lightest is taken, and of several that one which became ready first.  Objects that
never become ready are on a cycle or required from one, and then there is no schedule.
-/

set_option autoImplicit false

namespace SchemaPlan

/-- An object in a schedule. -/
structure ScheduledObject where
  /-- The place in the list, from one. -/
  order : Nat
  key : ObjectKey
  owner : Option String
  status : NodeStatus
deriving DecidableEq, Repr

/-- The two orders of a set of objects. -/
structure Schedule where
  rollback : List ScheduledObject
  install : List ScheduledObject
deriving DecidableEq, Repr

namespace Schedule

/-- The schedule of nothing. -/
def empty : Schedule := ⟨[], []⟩

/-- The objects with their places in the list as their numbers. -/
def numbered (objects : List ScheduledObject) : List ScheduledObject :=
  objects.mapIdx fun place object => { object with order := place + 1 }

/-- The schedule of objects that are given in the order of rolling back. -/
def ofRollback (objects : List ScheduledObject) : Schedule :=
  ⟨numbered objects, numbered objects.reverse⟩

/-- The schedule of the objects with one of the statuses. -/
def restrictedTo (schedule : Schedule) (statuses : List NodeStatus) : Schedule :=
  let keep (object : ScheduledObject) : Bool := decide (object.status ∈ statuses)
  ⟨numbered (schedule.rollback.filter keep), numbered (schedule.install.filter keep)⟩

/-- The number of objects. -/
def size (schedule : Schedule) : Nat := schedule.install.length

/-- Whether there are no objects. -/
def isEmpty (schedule : Schedule) : Bool := schedule.install.isEmpty

end Schedule

/-! ## Putting objects in order -/

namespace DependencyGraph

/-- The scheduled nodes that require a node. -/
def scheduledDependents (graph : DependencyGraph) (id : Nat) : List Nat :=
  (graph.dependentsOf id).filter graph.isScheduled

/-- Whether every scheduled node that requires a node has been taken. -/
def isReady (graph : DependencyGraph) (taken : List Nat) (id : Nat) : Bool :=
  (graph.scheduledDependents id).all taken.contains

/-- The nodes that nothing requires, in the order of creation. -/
def firstReady (graph : DependencyGraph) : List Nat :=
  graph.scheduled.filter (graph.isReady [])

/-- The scheduled nodes that become ready when a node is taken, in the order in which it requires
them.  `taken` holds the node already. -/
def released (graph : DependencyGraph) (taken : List Nat) (id : Nat) : List Nat :=
  (graph.requiredBy id).filter fun target =>
    graph.isScheduled target && graph.isReady taken target

/-- The first of the lightest nodes of a list. -/
def lightest? (graph : DependencyGraph) : List Nat → Option Nat
  | [] => none
  | id :: rest =>
    match graph.lightest? rest with
    | none => some id
    | some other => if graph.weightOf id ≤ graph.weightOf other then some id else some other

/-- Takes ready nodes until there are none, at most `limit` of them.  `ready` is in the order in
which the nodes became ready, `taken` in the order in which they were taken. -/
def takeReady (graph : DependencyGraph) (limit : Nat) (ready taken : List Nat) : List Nat :=
  match limit with
  | 0 => taken
  | limit + 1 =>
    match graph.lightest? ready with
    | none => taken
    | some id =>
      let taken := taken ++ [id]
      graph.takeReady limit (ready.erase id ++ graph.released taken id) taken

/-- The scheduled nodes in the order of rolling back, without those that never become ready. -/
def rollbackOrder (graph : DependencyGraph) : List Nat :=
  graph.takeReady graph.scheduled.length graph.firstReady []

/-- A node as an object that has no place in a list yet. -/
def scheduledObject? (graph : DependencyGraph) (id : Nat) : Option ScheduledObject :=
  (graph.node? id).map fun node => ⟨0, node.key, node.owner, node.status⟩

/-- The schedule of a graph. -/
def schedule (graph : DependencyGraph) : Except ScheduleError Schedule :=
  let order := graph.rollbackOrder
  let remaining := graph.scheduled.filter fun id => !order.contains id
  if remaining.isEmpty then .ok (Schedule.ofRollback (order.filterMap graph.scheduledObject?))
  else .error (.cycleDetected order.length graph.scheduled.length
    (Sorting.sortOn id (remaining.map graph.describe)))

end DependencyGraph

end SchemaPlan
