import SchemaPlan.Config.Basic
import SchemaPlan.Graph.Cycle

/-!
# Graphs from records

A graph is built from the confirmed records of custom objects.  A package of which no member
requires anything is left out together with its members.  Every member is put into its package;
an object outside all packages may require the members of the package of its own name only.
-/

set_option autoImplicit false

namespace SchemaPlan

/-- The packages with a member, or the package itself, that requires another object. -/
def packagesWithDependencies (edges : List Edge) : OrderedSet String :=
  OrderedSet.ofList ((edges.filter fun edge =>
    decide (edge.status = .ok) && !edge.isLeaf && !edge.isSelfReference).filterMap
      fun edge => edge.object.key.deliveryPackage?)

namespace GraphConfig

/-- Whether an object is custom: by the name of the package it is delivered with, or by its own
name. -/
def isCustom (config : GraphConfig) (key : ObjectKey) : Bool :=
  config.isCustomName (key.deliveryPackage?.getD key.name)

end GraphConfig

namespace DependencyGraph

/-- The failure of a record by which an object outside all packages requires a member. -/
def foreignMember (object dependency : ObjectRef) (package : String) : GraphError :=
  .invalidShape (object.describe ++ " -> " ++ dependency.describe)
    ("root-level object requires a member of package " ++ package)

/-- Adds a dependency of a node that is an object outside all packages. -/
def placeForRoot (graph : DependencyGraph) (id : Nat) (object dependency : ObjectRef) :
    Except GraphError DependencyGraph :=
  match dependency.key.package? with
  | none =>
    let (graph, target) := graph.addObject dependency.key dependency.owner
    .ok ((graph.setContainer target .root).addRequires id target)
  | some package =>
    if package = object.key.name then
      let (graph, target) := graph.addObject dependency.key dependency.owner
      let (graph, container) := graph.addContainer package dependency.owner
      .ok (((graph.ensureContainer container .root).ensureContainer target
        (.package container)).addRequires id target)
    else .error (foreignMember object dependency package)

/-- Adds a dependency of a node that is a member of the package of a container. -/
def placeForMember (graph : DependencyGraph) (id container : Nat) (package : String)
    (dependency : ObjectRef) : DependencyGraph :=
  let (graph, target) := graph.addObject dependency.key dependency.owner
  match dependency.key.package? with
  | none => (graph.setContainer target .root).addRequires id target
  | some other =>
    if other = package then (graph.setContainer target (.package container)).addRequires id target
    else
      let (graph, outer) := graph.addContainer other dependency.owner
      ((graph.ensureContainer outer .root).setContainer target (.package outer)).addRequires
        id target

/-- Adds an object and, if there is one, its dependency. -/
def place (graph : DependencyGraph) (object : ObjectRef) (dependency : Option ObjectRef) :
    Except GraphError DependencyGraph :=
  let (graph, id) := graph.addObject object.key object.owner
  match object.key.package? with
  | none =>
    let graph := graph.setContainer id .root
    match dependency with
    | none => .ok graph
    | some dependency => graph.placeForRoot id object dependency
  | some package =>
    let (graph, container) := graph.addContainer package object.owner
    let graph := (graph.ensureContainer container .root).setContainer id (.package container)
    match dependency with
    | none => .ok graph
    | some dependency => .ok (graph.placeForMember id container package dependency)

/-- The dependency of a record that counts: a custom object other than the object itself. -/
def countedDependency (config : GraphConfig) (edge : Edge) : Option ObjectRef :=
  edge.dependency.filter fun dependency =>
    decide (dependency.key ≠ edge.object.key) && config.isCustom dependency.key

/-- Whether a record belongs into the graph. -/
def isKept (config : GraphConfig) (packages : OrderedSet String) (edge : Edge) : Bool :=
  decide (edge.status = .ok) && config.isCustom edge.object.key &&
    edge.object.key.deliveryPackage?.all packages.contains

/-- The graph of records, whether it has cycles or not. -/
def ofEdges (config : GraphConfig) (edges : List Edge) : Except GraphError DependencyGraph :=
  (edges.filter (isKept config (packagesWithDependencies edges))).foldlM
    (fun graph edge => graph.place edge.object (countedDependency config edge)) empty

/-- The graph of records, if it has no cycles. -/
def build (config : GraphConfig) (edges : List Edge) : Except GraphError DependencyGraph := do
  let graph ← ofEdges config edges
  graph.ensureAcyclic
  return graph

end DependencyGraph

end SchemaPlan
