import SchemaPlan.Proofs.Schedule.Completeness

/-!
# Restricting a schedule

A schedule restricted to some statuses is the schedule of the objects that have one of
them, taken in the order in which they were (`restrictedTo_ofRollback`).  So both lists
stay the reverse of each other and are numbered anew, and restricting twice is restricting
once to the statuses in both.

An object that falls away may have stood between two that stay.  These are in order all the
same: whatever requires a node through scheduled nodes is taken before it, along a path of
any length (`mem_before_of_path`), and leaving out other objects changes nothing about that.
-/

set_option autoImplicit false

namespace SchemaPlan

/-! ## Objects with one of some statuses -/

/-- Whether an object has one of the statuses. -/
def ScheduledObject.hasOneOf (statuses : List NodeStatus) (object : ScheduledObject) : Bool :=
  decide (object.status ∈ statuses)

namespace Schedule

theorem size_ofRollback (objects : List ScheduledObject) :
    (ofRollback objects).size = objects.length := by
  simp [size, ofRollback, numbered]

/-- What is left does not depend on the numbers. -/
theorem map_unplaced_filter_hasOneOf (statuses : List NodeStatus)
    (objects : List ScheduledObject) :
    (objects.filter (·.hasOneOf statuses)).map (·.unplaced) =
      (objects.map (·.unplaced)).filter (·.hasOneOf statuses) := by
  rw [List.filter_map]
  rfl

/-- Numbering what is left of a numbered list is numbering what is left of the list. -/
theorem numbered_filter_numbered (statuses : List NodeStatus) (objects : List ScheduledObject) :
    numbered ((numbered objects).filter (·.hasOneOf statuses)) =
      numbered (objects.filter (·.hasOneOf statuses)) := by
  refine numbered_congr ?_
  rw [map_unplaced_filter_hasOneOf, map_unplaced_filter_hasOneOf, map_unplaced_numbered]

/-- **A restricted schedule is the schedule of the objects that are left.** -/
theorem restrictedTo_ofRollback (statuses : List NodeStatus) (objects : List ScheduledObject) :
    (ofRollback objects).restrictedTo statuses =
      ofRollback (objects.filter (·.hasOneOf statuses)) := by
  rw [ofRollback, ofRollback, ← List.filter_reverse, ← numbered_filter_numbered statuses objects,
    ← numbered_filter_numbered statuses objects.reverse]
  rfl

/-- What is left for two lists of statuses is left for the statuses in both. -/
theorem filter_hasOneOf_filter {first second both : List NodeStatus}
    (inBoth : ∀ status, status ∈ both ↔ status ∈ first ∧ status ∈ second)
    (objects : List ScheduledObject) :
    (objects.filter (·.hasOneOf first)).filter (·.hasOneOf second) =
      objects.filter (·.hasOneOf both) := by
  rw [List.filter_filter]
  refine List.filter_congr fun object _ => ?_
  rw [ScheduledObject.hasOneOf, ScheduledObject.hasOneOf, ← Bool.decide_and]
  exact decide_eq_decide.mpr (and_comm.trans (inBoth object.status).symm)

end Schedule

/-- Objects that are both left are listed as they were. -/
theorem ListsBefore.filter {objects : List ScheduledObject} {first second : Node}
    (before : ListsBefore objects first second) {statuses : List NodeStatus}
    (firstKept : first.status ∈ statuses) (secondKept : second.status ∈ statuses) :
    ListsBefore (objects.filter (·.hasOneOf statuses)) first second := by
  have firstHas : first.unplaced.hasOneOf statuses = true := decide_eq_true firstKept
  have secondHas : second.unplaced.hasOneOf statuses = true := decide_eq_true secondKept
  have kept := List.Sublist.filter (·.hasOneOf statuses) before
  rw [List.filter_cons_of_pos firstHas, List.filter_cons_of_pos secondHas, List.filter_nil] at kept
  rwa [ListsBefore, Schedule.map_unplaced_filter_hasOneOf]

namespace DependencyGraph

open Relation (TransGen)

variable {graph : DependencyGraph}

/-! ## Paths of requirements -/

/-- What requires a node, be it through others, comes before it. -/
theorem DependentsFirst.mem_before_of_path {order : List Nat}
    (first : graph.DependentsFirst order) {object dependency : Nat}
    (path : TransGen graph.Orders object dependency) :
    ∀ before after, order = before ++ dependency :: after → object ∈ before := by
  induction path with
  | single step =>
      obtain ⟨required, scheduled, _⟩ := step
      exact fun before after split => first before _ after split object required scheduled
  | @tail middle dependency _ step ih =>
      intro before after split
      obtain ⟨required, scheduled, _⟩ := step
      have middleEarlier := first before dependency after split middle required scheduled
      obtain ⟨start, rest, rfl⟩ := List.append_of_mem middleEarlier
      refine List.mem_append_left _ (ih start (rest ++ dependency :: after) ?_)
      rw [split, List.append_assoc, List.cons_append]

theorem isScheduled_of_path {object dependency : Nat}
    (path : TransGen graph.Orders object dependency) : graph.isScheduled dependency = true := by
  cases path with
  | single step => exact step.2.2
  | tail _ step => exact step.2.2

/-- **A path of requirements orders the nodes that are taken**, if all its nodes are
scheduled. -/
theorem sublist_rollbackOrder_of_path (proper : graph.Proper) {schedule : Schedule}
    (made : graph.schedule = .ok schedule) {object dependency : Nat}
    (path : TransGen graph.Orders object dependency) :
    [object, dependency].Sublist graph.rollbackOrder := by
  obtain ⟨_, frontier⟩ := frontier_rollbackOrder proper
  have taken := (schedule_eq_ok made).2 dependency (isScheduled_of_path path)
  obtain ⟨before, after, split⟩ := List.append_of_mem taken
  have earlier := frontier.dependentsFirst.mem_before_of_path path before after split
  rw [split]
  exact (List.singleton_sublist.mpr earlier).append
    (List.singleton_sublist.mpr List.mem_cons_self)

/-! ## Restricted schedules of graphs made by changes -/

/-- **What restricting a schedule keeps**, for the schedule of a graph made by changes.
Both lists keep the objects with one of the statuses, in their order and each once;
installing is still rolling back in reverse; and both lists are numbered from one.  Of two
objects that are kept, one of which requires the other through any number of scheduled
nodes, the required one is installed first, whether or not the nodes between are kept.
Restricting again is restricting to the statuses in both. -/
theorem restrictedTo_ofChanges {changes : List GraphChange} {schedule : Schedule}
    (made : (ofChanges changes).schedule = .ok schedule) (statuses : List NodeStatus) :
    ((schedule.restrictedTo statuses).rollback.map (·.unplaced) =
        (schedule.rollback.map (·.unplaced)).filter fun object => object.status ∈ statuses) ∧
    ((schedule.restrictedTo statuses).install.map (·.unplaced) =
        (schedule.install.map (·.unplaced)).filter fun object => object.status ∈ statuses) ∧
    ((schedule.restrictedTo statuses).rollback.map (·.key)).Nodup ∧
    ((schedule.restrictedTo statuses).install.map (·.unplaced) =
      ((schedule.restrictedTo statuses).rollback.map (·.unplaced)).reverse) ∧
    (schedule.restrictedTo statuses).rollback.map (·.order) =
      List.range' 1 (schedule.restrictedTo statuses).size ∧
    (schedule.restrictedTo statuses).install.map (·.order) =
      List.range' 1 (schedule.restrictedTo statuses).size ∧
    (∀ object dependency, TransGen (ofChanges changes).Orders object dependency →
      ∀ node target, (ofChanges changes).node? object = some node →
      (ofChanges changes).node? dependency = some target →
      node.status ∈ statuses → target.status ∈ statuses →
      ListsBefore (schedule.restrictedTo statuses).rollback node target ∧
        ListsBefore (schedule.restrictedTo statuses).install target node) ∧
    ∀ others both, (∀ status, status ∈ both ↔ status ∈ statuses ∧ status ∈ others) →
      (schedule.restrictedTo statuses).restrictedTo others = schedule.restrictedTo both := by
  have proper := proper_ofChanges changes
  obtain ⟨rfl, _⟩ := schedule_eq_ok made
  rw [Schedule.restrictedTo_ofRollback]
  have kept := Schedule.map_unplaced_filter_hasOneOf statuses
  refine ⟨?_, ?_, ?_, ?_, ?_, ?_, ?_, ?_⟩
  · rw [Schedule.ofRollback, Schedule.ofRollback, Schedule.map_unplaced_numbered,
      Schedule.map_unplaced_numbered, kept]
    rfl
  · rw [Schedule.ofRollback, Schedule.ofRollback, Schedule.map_unplaced_numbered,
      Schedule.map_unplaced_numbered, ← List.filter_reverse, kept]
    rfl
  · rw [Schedule.ofRollback, Schedule.map_key_numbered]
    exact (nodup_keys_rollbackObjects proper).sublist (List.filter_sublist.map _)
  · rw [Schedule.ofRollback, Schedule.map_unplaced_numbered, Schedule.map_unplaced_numbered,
      List.map_reverse]
  · rw [Schedule.size_ofRollback, Schedule.ofRollback, Schedule.map_order_numbered]
  · rw [Schedule.size_ofRollback, Schedule.ofRollback, Schedule.map_order_numbered,
      List.length_reverse]
  · intro object dependency path node target found alsoFound nodeKept targetKept
    have before := (listsBefore_of_sublist (sublist_rollbackOrder_of_path proper made path) found
      alsoFound).filter nodeKept targetKept
    exact ⟨listsBefore_numbered.mpr before, listsBefore_numbered.mpr before.reverse⟩
  · intro others both inBoth
    rw [Schedule.restrictedTo_ofRollback, Schedule.restrictedTo_ofRollback,
      Schedule.filter_hasOneOf_filter inBoth]

/-- A graph in which a procedure requires a table through a function that is not delivered;
a view that requires nothing is missing. -/
def relayedChanges : List GraphChange :=
  [.addObject (.rootLevel .table "DATA") (some "B"),
    .addObject (.rootLevel .procedure "ENTRY") (some "A"),
    .addObject (.rootLevel .function "RELAY") (some "A"), .addObject (.rootLevel .view "SHOW") none,
    .addRequires 1 2, .addRequires 2 0, .setStatus 0 .install, .setStatus 1 .install,
    .setStatus 3 .missing]

/-- The objects of that graph in the order of rolling back. -/
def relayedObjects : List ScheduledObject :=
  [⟨0, .rootLevel .procedure "ENTRY", some "A", .install⟩,
    ⟨0, .rootLevel .function "RELAY", some "A", .skip⟩,
    ⟨0, .rootLevel .view "SHOW", none, .missing⟩,
    ⟨0, .rootLevel .table "DATA", some "B", .install⟩]

/-- The table is delivered before the procedure, although the function between them is not
delivered; and leaving out what is missing first makes no difference. -/
theorem restrictedTo_relayedChanges :
    (ofChanges relayedChanges).schedule = .ok (Schedule.ofRollback relayedObjects) ∧
      TransGen (ofChanges relayedChanges).Orders 1 0 ∧
      ListsBefore ((Schedule.ofRollback relayedObjects).restrictedTo [.install, .missing]).install
        ⟨.rootLevel .table "DATA", some "B", none, .install, false⟩
        ⟨.rootLevel .procedure "ENTRY", some "A", none, .install, false⟩ ∧
      ((Schedule.ofRollback relayedObjects).restrictedTo [.install, .missing]).restrictedTo
          [.install, .skip] = (Schedule.ofRollback relayedObjects).restrictedTo [.install] := by
  have made : (ofChanges relayedChanges).schedule =
      .ok (Schedule.ofRollback relayedObjects) := by
    with_unfolding_all rfl
  have joined : (1, 2) ∈ (ofChanges relayedChanges).requires ∧
      (2, 0) ∈ (ofChanges relayedChanges).requires := by
    with_unfolding_all decide
  have path : TransGen (ofChanges relayedChanges).Orders 1 0 :=
    .tail (.single ⟨joined.1, rfl, rfl⟩) ⟨joined.2, rfl, rfl⟩
  obtain ⟨_, _, _, _, _, _, ordered, twice⟩ :=
    restrictedTo_ofChanges made [.install, .missing]
  refine ⟨made, path, (ordered 1 0 path _ _ rfl rfl (by decide) (by decide)).2, ?_⟩
  exact twice [.install, .skip] [.install] fun status => by cases status <;> decide

end DependencyGraph

end SchemaPlan
