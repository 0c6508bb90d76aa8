import SchemaPlan.Edge.Basic

/-!
# Dependency graphs

The nodes of a dependency graph are objects, numbered in the order in which they were added.  Each
key has one node.  A node may live in a container, which is the root level or the node of a
package; a package that is only needed as a container is a placeholder and is never delivered.
An object requires each of its dependencies once and never itself.

The numbers of the keys may be kept in a table beside the graph, so that a key that is named again
is found without a search.

Every object has a weight.  Of the objects that may come next in a rollback the lightest comes
first.  Packages go before their routines, routines before triggers and views, and the objects that
hold data go last.
-/

set_option autoImplicit false

namespace SchemaPlan

/-! ## Weights -/

/-- The weight of a type. -/
def ObjectType.weight : ObjectType → Nat
  | package => 1
  | procedure | function | localFunction => 10
  | trigger => 50
  | view => 500
  | table | sequence => 1000

/-- What a package adds to the weight of its members: all packages, and the root level, weigh the
same. -/
def packageWeight (_ : String) : Nat := 0

/-- The weight of an object. -/
def ObjectKey.weight (key : ObjectKey) : Nat :=
  key.objectType.weight + packageWeight key.package

/-! ## Containers and statuses -/

/-- Where a node lives. -/
inductive Container where
  | root
  | package (node : Nat)
deriving DecidableEq, Repr

/-- What is decided about a node. -/
inductive NodeStatus where
  | install
  | skip
  | missing
deriving DecidableEq, Repr

namespace NodeStatus

/-- Every status, in ascending order. -/
def all : List NodeStatus := [install, skip, missing]

/-- The name of a status. -/
def name : NodeStatus → String
  | install => "INSTALL"
  | skip => "SKIP"
  | missing => "MISSING"

/-- The status with a given name. -/
def ofName? (text : String) : Option NodeStatus :=
  all.find? fun status => status.name == text

/-- The status of the records of a node. -/
def edgeStatus : NodeStatus → EdgeStatus
  | install => .install
  | skip => .skip
  | missing => .missing

end NodeStatus

/-- A node of a dependency graph. -/
structure Node where
  key : ObjectKey
  owner : Option String
  container : Option Container
  status : NodeStatus
  /-- The node only contains other nodes. -/
  isPlaceholder : Bool
deriving DecidableEq, Repr

namespace Node

/-- The node after its key has been named again: the first owner given stays. -/
def ownedBy (node : Node) (owner : Option String) : Node :=
  { node with owner := node.owner.or owner }

/-- The object that a node stands for. -/
def toRef (node : Node) : ObjectRef := ObjectRef.new node.owner node.key

end Node

/-- A dependency graph.  Nodes are meant by their place in the list. -/
structure DependencyGraph where
  nodes : List Node
  /-- Which node requires which, in the order of insertion. -/
  requires : List (Nat × Nat)
deriving DecidableEq, Repr

namespace DependencyGraph

/-- The graph without nodes. -/
def empty : DependencyGraph := ⟨[], []⟩

/-! ## Nodes -/

/-- The nodes in the order of creation. -/
def ids (graph : DependencyGraph) : List Nat := List.range graph.nodes.length

/-- The node with a number. -/
def node? (graph : DependencyGraph) (id : Nat) : Option Node := graph.nodes[id]?

/-- The node of a key. -/
def idOf? (graph : DependencyGraph) (key : ObjectKey) : Option Nat :=
  graph.nodes.findIdx? fun node => decide (node.key = key)

/-- Changes one node; a number without a node changes nothing. -/
def modify (graph : DependencyGraph) (id : Nat) (change : Node → Node) : DependencyGraph :=
  { graph with nodes := graph.nodes.modify id change }

/-- The graph with a node for a key, and that node.  A new node is a placeholder if so asked. -/
def intern (graph : DependencyGraph) (key : ObjectKey) (owner : Option String)
    (isPlaceholder : Bool) : DependencyGraph × Nat :=
  match graph.idOf? key with
  | some id => (graph.modify id (·.ownedBy owner), id)
  | none =>
    ({ graph with nodes := graph.nodes ++ [⟨key, owner, none, .skip, isPlaceholder⟩] },
      graph.nodes.length)

/-- The graph with a node for an object, and that node.  A placeholder becomes a real node. -/
def addObject (graph : DependencyGraph) (key : ObjectKey) (owner : Option String) :
    DependencyGraph × Nat :=
  let (graph, id) := graph.intern key owner false
  (graph.modify id fun node => { node with isPlaceholder := false }, id)

/-- The graph with a node for a package, and that node.  A new node is a placeholder. -/
def addContainer (graph : DependencyGraph) (package : String) (owner : Option String) :
    DependencyGraph × Nat :=
  graph.intern (ObjectKey.packageNode package) owner true

/-- Puts a node into a container, unless it is in one. -/
def ensureContainer (graph : DependencyGraph) (id : Nat) (container : Container) :
    DependencyGraph :=
  graph.modify id fun node => { node with container := node.container.or (some container) }

/-- Puts a node into a container. -/
def setContainer (graph : DependencyGraph) (id : Nat) (container : Container) :
    DependencyGraph :=
  graph.modify id fun node => { node with container := some container }

/-- Sets the status of a node. -/
def setStatus (graph : DependencyGraph) (id : Nat) (status : NodeStatus) : DependencyGraph :=
  graph.modify id fun node => { node with status }

/-- Sets the status of every node by its number and its content. -/
def assignStatuses (graph : DependencyGraph) (status : Nat → Node → NodeStatus) :
    DependencyGraph :=
  { graph with nodes := graph.nodes.mapIdx fun id node => { node with status := status id node } }

/-- Whether a node takes part in delivery. -/
def isScheduled (graph : DependencyGraph) (id : Nat) : Bool :=
  (graph.node? id).any fun node => !node.isPlaceholder

/-- The nodes that take part in delivery, in the order of creation. -/
def scheduled (graph : DependencyGraph) : List Nat := graph.ids.filter graph.isScheduled

/-- The weight of a node. -/
def weightOf (graph : DependencyGraph) (id : Nat) : Nat :=
  ((graph.node? id).map (·.key.weight)).getD 0

/-- The written form of a node. -/
def describe (graph : DependencyGraph) (id : Nat) : String :=
  match graph.node? id with
  | some node => node.key.describe
  | none => "#" ++ id.repr

/-! ## Requirements -/

/-- Notes that one node requires another.  What is noted already, a node that requires itself and
numbers without nodes change nothing. -/
def addRequires (graph : DependencyGraph) (object dependency : Nat) : DependencyGraph :=
  if object = dependency ∨ (object, dependency) ∈ graph.requires ∨
      graph.nodes.length ≤ object ∨ graph.nodes.length ≤ dependency then graph
  else { graph with requires := graph.requires ++ [(object, dependency)] }

/-- What a node requires, in the order of insertion. -/
def requiredBy (graph : DependencyGraph) (id : Nat) : List Nat :=
  (graph.requires.filter fun pair => pair.1 == id).map (·.2)

/-- What requires a node, in the order of insertion. -/
def dependentsOf (graph : DependencyGraph) (id : Nat) : List Nat :=
  (graph.requires.filter fun pair => pair.2 == id).map (·.1)

/-! ## Records -/

/-- The records of a node: one per object that it requires, or a leaf record. -/
def recordsOf (graph : DependencyGraph) (id : Nat) (node : Node) : List Edge :=
  let status := node.status.edgeStatus
  match graph.requiredBy id with
  | [] => [(Edge.leaf node.toRef).withStatus status]
  | targets => (targets.filterMap graph.node?).map fun target =>
    (Edge.requires node.toRef target.toRef).withStatus status

/-- The records of all scheduled nodes, each with the status of its object. -/
def classifiedEdges (graph : DependencyGraph) : List Edge :=
  graph.scheduled.flatMap fun id =>
    match graph.node? id with
    | some node => graph.recordsOf id node
    | none => []

end DependencyGraph

/-! ## Numbers beside the nodes -/

/-- A dependency graph with a table of the numbers of its keys. -/
structure IndexedGraph where
  graph : DependencyGraph
  /-- The number of each key, the latest first. -/
  numbers : List (ObjectKey × Nat)
deriving DecidableEq, Repr

namespace IndexedGraph

/-- The graph without nodes and its table. -/
def empty : IndexedGraph := ⟨.empty, []⟩

/-- The number that the table holds for a key. -/
def indexOf? (indexed : IndexedGraph) (key : ObjectKey) : Option Nat := indexed.numbers.lookup key

/-- The graph with a node for a key, and that node.  The number of a new node is noted. -/
def intern (indexed : IndexedGraph) (key : ObjectKey) (owner : Option String)
    (isPlaceholder : Bool) : IndexedGraph × Nat :=
  match indexed.indexOf? key with
  | some id => ({ indexed with graph := indexed.graph.modify id (·.ownedBy owner) }, id)
  | none =>
    let id := indexed.graph.nodes.length
    let nodes := indexed.graph.nodes ++ [⟨key, owner, none, .skip, isPlaceholder⟩]
    (⟨{ indexed.graph with nodes }, (key, id) :: indexed.numbers⟩, id)

/-- The graph with a node for an object, and that node.  A placeholder becomes a real node. -/
def addObject (indexed : IndexedGraph) (key : ObjectKey) (owner : Option String) :
    IndexedGraph × Nat :=
  let (indexed, id) := indexed.intern key owner false
  ({ indexed with
    graph := indexed.graph.modify id fun node => { node with isPlaceholder := false } }, id)

/-- The graph with a node for a package, and that node.  A new node is a placeholder. -/
def addContainer (indexed : IndexedGraph) (package : String) (owner : Option String) :
    IndexedGraph × Nat :=
  indexed.intern (ObjectKey.packageNode package) owner true

end IndexedGraph

end SchemaPlan
