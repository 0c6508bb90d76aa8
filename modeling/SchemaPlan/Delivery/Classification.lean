import SchemaPlan.Collection.OrderedSet
import SchemaPlan.Config.Basic
import SchemaPlan.Graph.Cycle

/-!
# Delivery targets and the classification of objects

A selection names the packages that are to be delivered and those that never are.  A selection
that names no package to deliver asks for everything.

Every node first gets a status from the selection alone.  Then a skipped object that a delivered
one requires is delivered too, unless its package is named by the selection, and so on for what
that object requires.
-/

set_option autoImplicit false

namespace SchemaPlan

/-! ## Targets -/

/-- Which packages are to be delivered. -/
structure Selection where
  install : OrderedSet String
  skip : OrderedSet String
deriving DecidableEq

namespace Selection

/-- Names in stored form, without blank ones. -/
def packageNames (names : List String) : OrderedSet String :=
  OrderedSet.ofList ((names.map Text.canonical).filter fun name => !name.isEmpty)

/-- The selection of packages to deliver and of packages never to deliver. -/
def new (install skip : List String) : Selection := ⟨packageNames install, packageNames skip⟩

/-- The selection that a configuration asks for. -/
def ofTargets (targets : TargetConfig) : Selection :=
  new targets.installPackages targets.skipPackages

/-- Whether everything is to be delivered. -/
def installsEverything (selection : Selection) : Bool := selection.install.isEmpty

/-- Whether a package is named at all, so that its members inherit nothing. -/
def isIndependent (selection : Selection) (package : String) : Bool :=
  selection.install.contains package || selection.skip.contains package

end Selection

/-! ## Classification -/

/-- How many scheduled objects got each status, and how many nodes inherited theirs. -/
structure Summary where
  install : Nat
  skip : Nat
  missing : Nat
  /-- The nodes that are delivered only because a delivered object requires them. -/
  inherited : Nat
deriving DecidableEq, Repr

namespace Selection

/-- The status of an object before anything is inherited. -/
def initialStatus (selection : Selection) (missing : OrderedSet ObjectKey) (key : ObjectKey) :
    NodeStatus :=
  if missing.contains key then .missing
  else if key.deliveryPackage?.any selection.skip.contains then .skip
  else if key.deliveryPackage?.any selection.install.contains then .install
  else if selection.installsEverything then .install
  else .skip

/-- Whether the package that an object is delivered with is named by the selection. -/
def fixes (selection : Selection) (key : ObjectKey) : Bool :=
  key.deliveryPackage?.any selection.isIndependent

/-- The graph with the statuses before anything is inherited. -/
def preclassify (selection : Selection) (missing : OrderedSet ObjectKey)
    (graph : DependencyGraph) : DependencyGraph :=
  graph.assignStatuses fun _ node => selection.initialStatus missing node.key

end Selection

namespace DependencyGraph

/-- Whether a node has a status. -/
def hasStatus (graph : DependencyGraph) (status : NodeStatus) (id : Nat) : Bool :=
  (graph.node? id).any fun node => decide (node.status = status)

/-- Whether a node is delivered once a delivered node requires it. -/
def inherits (graph : DependencyGraph) (selection : Selection) (id : Nat) : Bool :=
  (graph.node? id).any fun node =>
    decide (node.status = .skip) && !selection.fixes node.key

/-- The delivered nodes and those that inherit from them. -/
def delivered (graph : DependencyGraph) (selection : Selection) : List Nat :=
  graph.reachable (fun id => (graph.requiredBy id).filter (graph.inherits selection))
    (graph.ids.filter (graph.hasStatus .install))

/-- The graph in which all that inherits is delivered. -/
def promote (graph : DependencyGraph) (selection : Selection) : DependencyGraph :=
  let delivered := graph.delivered selection
  graph.assignStatuses fun id node => if delivered.contains id then .install else node.status

/-- The number of nodes in a list with a status. -/
def countStatus (graph : DependencyGraph) (status : NodeStatus) (ids : List Nat) : Nat :=
  ids.countP (graph.hasStatus status)

/-- The summary of a graph and of what it was before anything was inherited. -/
def summary (before after : DependencyGraph) : Summary where
  install := after.countStatus .install after.scheduled
  skip := after.countStatus .skip after.scheduled
  missing := after.countStatus .missing after.scheduled
  inherited := after.countStatus .install after.ids - before.countStatus .install before.ids

end DependencyGraph

namespace Selection

/-- Gives every node its status.  A graph with cycles is refused. -/
def classify (selection : Selection) (missing : OrderedSet ObjectKey) (graph : DependencyGraph) :
    Except GraphError (DependencyGraph × Summary) := do
  let before := selection.preclassify missing graph
  before.ensureAcyclic
  let after := before.promote selection
  return (after, before.summary after)

end Selection

end SchemaPlan
