import SchemaPlan.Error
import SchemaPlan.Graph.Basic

/-!
# Reachability and cycles

What can be reached from a list of nodes is found level by level.  Each level holds at least one
new node, so that there are at most as many levels as nodes.

Two nodes are on a common cycle when each requires the other, directly or not.  A cycle is
reported as the list of all nodes that are on common cycles, in the order of creation.
-/

set_option autoImplicit false

/-! ## Reachability -/

namespace SchemaPlan

/-- The neighbours of a level that have not been reached, each once. -/
def nextLevel (next : Nat → List Nat) (level reached : List Nat) : List Nat :=
  (level.flatMap next).foldl
    (fun found id => if id ∈ reached ∨ id ∈ found then found else found ++ [id]) []

/-- What has been reached, with all that can be reached from a level in at most `limit` steps. -/
def spread (next : Nat → List Nat) (limit : Nat) (level reached : List Nat) : List Nat :=
  match limit with
  | 0 => reached
  | limit + 1 =>
    let found := nextLevel next level reached
    if found.isEmpty then reached else spread next limit found (reached ++ found)

namespace DependencyGraph

/-- The given nodes and all that can be reached from them, where `next` gives the neighbours of a
node. -/
def reachable (graph : DependencyGraph) (next : Nat → List Nat) (start : List Nat) : List Nat :=
  spread next graph.nodes.length start start

/-- A node together with all that it requires, directly or not. -/
def requiredFrom (graph : DependencyGraph) (id : Nat) : List Nat :=
  graph.reachable graph.requiredBy [id]

/-- Whether a node requires itself through others. -/
def isOnCycle (graph : DependencyGraph) (id : Nat) : Bool :=
  (graph.reachable graph.requiredBy (graph.requiredBy id)).contains id

end DependencyGraph

end SchemaPlan

/-! ## Cycles -/

namespace SchemaPlan.DependencyGraph

/-- The nodes that a node requires and that require it, directly or not, with the node itself. -/
def cycleOf (graph : DependencyGraph) (id : Nat) : List Nat :=
  let required := graph.requiredFrom id
  graph.ids.filter fun other =>
    required.contains other && (graph.requiredFrom other).contains id

/-- Every cycle, in the order of the first nodes. -/
def cycles (graph : DependencyGraph) : List (List Nat) :=
  ((graph.ids.filter graph.isOnCycle).filter fun id =>
    decide ((graph.cycleOf id).head? = some id)).map graph.cycleOf

/-- Refuses a graph with cycles and reports them all. -/
def ensureAcyclic (graph : DependencyGraph) : Except GraphError Unit :=
  let cycles := graph.cycles
  if cycles.isEmpty then .ok ()
  else .error (.cycleDetected (cycles.map fun cycle => cycle.map graph.describe))

end SchemaPlan.DependencyGraph
