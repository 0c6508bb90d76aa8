import SchemaPlan.Plan.Planner
import SchemaPlan.Proofs.Delivery.Classification
import SchemaPlan.Proofs.Graph.Placement
import SchemaPlan.Proofs.Schedule.Contents

/-!
# Safety of migration plans

A plan is safe to carry out: an object comes after everything that it requires,
and what is left out of the delivery is left out for a reason.  The proof
follows the planning.  The graph of the records has no placeholder at the end
of a requirement; the classification only changes statuses; the schedule lists
every scheduled node once, and the required one of two nodes first; what is
delivered is a part of that schedule in the same order.
-/

set_option autoImplicit false

namespace SchemaPlan

/-- One key of a list comes before another one. -/
def Precedes (keys : List ObjectKey) (first second : ObjectKey) : Prop :=
  [first, second].Sublist keys

namespace Schedule

/-- The keys of the objects in the order of installing. -/
def installKeys (schedule : Schedule) : List ObjectKey := schedule.install.map (·.key)

/-- The schedule lists an object under a key with a status. -/
def Decides (schedule : Schedule) (key : ObjectKey) (status : NodeStatus) : Prop :=
  ∃ object ∈ schedule.install, object.key = key ∧ object.status = status

theorem Decides.mem_installKeys {schedule : Schedule} {key : ObjectKey} {status : NodeStatus}
    (decides : schedule.Decides key status) : key ∈ schedule.installKeys := by
  obtain ⟨object, listed, rfl, _⟩ := decides
  exact List.mem_map_of_mem listed

/-- With distinct keys there is one decision about a key. -/
theorem Decides.unique {schedule : Schedule} {key : ObjectKey} {first second : NodeStatus}
    (distinct : schedule.installKeys.Nodup) (decides : schedule.Decides key first)
    (alsoDecides : schedule.Decides key second) : first = second := by
  obtain ⟨object, listed, rfl, rfl⟩ := decides
  obtain ⟨other, alsoListed, sameKey, rfl⟩ := alsoDecides
  rw [List.inj_on_of_nodup_map distinct listed alsoListed sameKey.symm]

/-- A delivered key is one that the whole schedule delivers. -/
theorem decides_of_mem_restrictedTo {schedule : Schedule} {key : ObjectKey}
    (member : key ∈ (schedule.restrictedTo [.install]).installKeys) :
    schedule.Decides key .install := by
  rw [installKeys, restrictedTo, map_key_numbered] at member
  obtain ⟨object, kept, rfl⟩ := List.mem_map.mp member
  obtain ⟨listed, isInstall⟩ := List.mem_filter.mp kept
  exact ⟨object, listed, rfl, by simpa using isInstall⟩

/-- Two objects are installed in an order, with their statuses. -/
def Orders (schedule : Schedule) (first second : Node) : Prop :=
  ∃ placed later, [placed, later].Sublist schedule.install ∧
    (placed.key = first.key ∧ placed.status = first.status) ∧
    later.key = second.key ∧ later.status = second.status

theorem Orders.decides_first {schedule : Schedule} {first second : Node}
    (orders : schedule.Orders first second) : schedule.Decides first.key first.status := by
  obtain ⟨placed, later, sublist, ⟨key, status⟩, _⟩ := orders
  exact ⟨placed, sublist.subset List.mem_cons_self, key, status⟩

theorem Orders.decides_second {schedule : Schedule} {first second : Node}
    (orders : schedule.Orders first second) : schedule.Decides second.key second.status := by
  obtain ⟨placed, later, sublist, _, key, status⟩ := orders
  exact ⟨later, sublist.subset (List.mem_cons_of_mem _ List.mem_cons_self), key, status⟩

theorem Orders.precedes {schedule : Schedule} {first second : Node}
    (orders : schedule.Orders first second) :
    Precedes schedule.installKeys first.key second.key := by
  obtain ⟨placed, later, sublist, ⟨firstKey, _⟩, secondKey, _⟩ := orders
  have keys := sublist.map (·.key)
  rw [List.map_cons, List.map_singleton, firstKey, secondKey] at keys
  exact keys

/-- Objects that are both delivered are delivered in the order of the whole
schedule. -/
theorem Orders.precedes_restrictedTo {schedule : Schedule} {first second : Node}
    (orders : schedule.Orders first second) (firstInstalled : first.status = .install)
    (secondInstalled : second.status = .install) :
    Precedes (schedule.restrictedTo [.install]).installKeys first.key second.key := by
  obtain ⟨placed, later, sublist, ⟨firstKey, firstStatus⟩, secondKey, secondStatus⟩ := orders
  rw [Precedes, installKeys, restrictedTo, map_key_numbered, ← firstKey, ← secondKey]
  have kept := sublist.filter fun object => decide (object.status ∈ [NodeStatus.install])
  rw [List.filter_cons_of_pos (by simp [firstStatus, firstInstalled]),
    List.filter_cons_of_pos (by simp [secondStatus, secondInstalled])] at kept
  exact kept.map (·.key)

end Schedule

namespace DependencyGraph

variable {graph : DependencyGraph}

theorem nodup_installKeys (proper : graph.Proper) {schedule : Schedule}
    (made : graph.schedule = .ok schedule) : schedule.installKeys.Nodup := by
  rw [(schedule_eq_ok made).1, Schedule.installKeys, Schedule.ofRollback,
    Schedule.map_key_numbered, List.map_reverse]
  exact List.nodup_reverse.mpr (nodup_keys_rollbackObjects proper)

/-- **What is required is installed first.** -/
theorem orders_of_requires (built : graph.Built) {schedule : Schedule}
    (made : graph.schedule = .ok schedule) {object dependency : Nat} {node target : Node}
    (required : (object, dependency) ∈ graph.requires) (found : graph.node? object = some node)
    (alsoFound : graph.node? dependency = some target) : schedule.Orders target node := by
  obtain ⟨objectScheduled, dependencyScheduled⟩ := built.endsScheduled _ required
  have real : node.isPlaceholder = false := by
    simpa [isScheduled, found] using objectScheduled
  have alsoReal : target.isPlaceholder = false := by
    simpa [isScheduled, alsoFound] using dependencyScheduled
  have before := (listsBefore_of_requires built.toProper made required found alsoFound real
    alsoReal).2
  obtain ⟨first, second, sublist, firstSame, secondSame⟩ := Schedule.pair_sublist_map before
  refine ⟨first, second, sublist, ⟨?_, ?_⟩, ?_, ?_⟩
  · exact congrArg ScheduledObject.key firstSame
  · exact congrArg ScheduledObject.status firstSame
  · exact congrArg ScheduledObject.key secondSame
  · exact congrArg ScheduledObject.status secondSame

/-- A record of a node has the status of the node and tells what the node requires. -/
theorem mem_recordsOf {id : Nat} {node : Node} {edge : Edge}
    (member : edge ∈ graph.recordsOf id node) :
    edge.object = node.toRef ∧ edge.status = node.status.edgeStatus ∧
      ∀ dependency, edge.dependency = some dependency →
        ∃ target other, (id, target) ∈ graph.requires ∧ graph.node? target = some other ∧
          other.toRef = dependency := by
  rw [recordsOf] at member
  split at member
  · rw [List.mem_singleton.mp member]
    exact ⟨rfl, rfl, fun _ needed => absurd needed.symm (Option.some_ne_none _)⟩
  · obtain ⟨other, isTarget, rfl⟩ := List.mem_map.mp member
    obtain ⟨target, required, found⟩ := List.mem_filterMap.mp isTarget
    refine ⟨rfl, rfl, fun dependency same => ?_⟩
    exact ⟨target, other, mem_requiredBy.mp required, found, Option.some.inj same⟩

/-- Every record is one of a node. -/
theorem exists_mem_recordsOf {edge : Edge} (member : edge ∈ graph.classifiedEdges) :
    ∃ id node, graph.node? id = some node ∧ edge ∈ graph.recordsOf id node := by
  obtain ⟨id, _, listed⟩ := List.mem_flatMap.mp member
  split at listed
  · next node found => exact ⟨id, node, found, listed⟩
  · exact absurd listed List.not_mem_nil

/-- A record with a dependency stands for a requirement. -/
theorem mem_classifiedEdges {edge : Edge} {dependency : ObjectRef}
    (member : edge ∈ graph.classifiedEdges) (requires : edge.dependency = some dependency) :
    ∃ id target node other, (id, target) ∈ graph.requires ∧ graph.node? id = some node ∧
      graph.node? target = some other ∧ edge.object.key = node.key ∧
      dependency.key = other.key ∧ edge.status = node.status.edgeStatus := by
  obtain ⟨id, node, found, listed⟩ := exists_mem_recordsOf member
  obtain ⟨isObject, status, isDependency⟩ := mem_recordsOf listed
  obtain ⟨target, other, required, alsoFound, rfl⟩ := isDependency dependency requires
  exact ⟨id, target, node, other, required, found, alsoFound, congrArg ObjectRef.key isObject,
    rfl, status⟩

end DependencyGraph

namespace Planner

variable {planner : Planner} {closure : Closure} {plan : MigrationPlan}

/-- The steps of a planning that succeeds. -/
theorem planClosure_eq_ok (planned : planner.planClosure closure = .ok plan) :
    ∃ graph after, DependencyGraph.build planner.config.graph closure.edges = .ok graph ∧
      (Selection.ofTargets planner.config.targets).classify closure.missing graph =
        .ok (after, plan.summary) ∧
      after.schedule = .ok plan.schedule ∧ plan.classifiedEdges = after.classifiedEdges := by
  obtain ⟨_, _, planned⟩ := Outcome.bind_eq_ok.mp planned
  obtain ⟨graph, built, planned⟩ := Outcome.bind_eq_ok.mp planned
  obtain ⟨⟨after, summary⟩, classified, planned⟩ := Outcome.bind_eq_ok.mp planned
  obtain ⟨_, _, planned⟩ := Outcome.bind_eq_ok.mp planned
  obtain ⟨schedule, scheduled, planned⟩ := Outcome.bind_eq_ok.mp planned
  rw [Outcome.mapError_eq_ok] at built classified scheduled
  obtain rfl := Outcome.pure_eq_ok.mp planned
  exact ⟨graph, after, built, classified, scheduled, rfl⟩

/-- A plan is made from the closure of its roots. -/
theorem exists_closure_of_plan {Log : Type} {sink : EdgeSink Log} {roots : List ObjectRef}
    {log after : Log} (planned : planner.plan sink roots log = (.ok plan, after)) :
    ∃ closure, planner.expansion.run sink roots log = (.ok closure, after) ∧
      planner.planClosure closure = .ok plan := by
  rw [Planner.plan] at planned
  split at planned
  · cases planned
  · next closure _ ran =>
    obtain ⟨made, rfl⟩ := Prod.mk.inj planned
    exact ⟨closure, ran, made⟩

theorem plan_eq_ok {Log : Type} {sink : EdgeSink Log} {roots : List ObjectRef} {log after : Log}
    (planned : planner.plan sink roots log = (.ok plan, after)) :
    ∃ closure, planner.planClosure closure = .ok plan :=
  (exists_closure_of_plan planned).imp fun _ both => both.2

/-- **Every plan is dependency-safe.**  Rolling back is installing in reverse.
Both ends of a classified record are scheduled once, the dependency first, and
the record has the status of its object.  What a delivered object requires is
delivered before it, or is missing, or belongs to a package that is never
delivered. -/
theorem plan_dependency_safe {Log : Type} {sink : EdgeSink Log} {roots : List ObjectRef}
    {log after : Log} (planned : planner.plan sink roots log = (.ok plan, after)) :
    plan.schedule.rollback = Schedule.numbered plan.schedule.install.reverse ∧
    (∀ edge ∈ plan.classifiedEdges, ∀ dependency, edge.dependency = some dependency →
      plan.schedule.installKeys.count edge.object.key = 1 ∧
      plan.schedule.installKeys.count dependency.key = 1 ∧
      Precedes plan.schedule.installKeys dependency.key edge.object.key ∧
      ∃ status, plan.schedule.Decides edge.object.key status ∧
        edge.status = status.edgeStatus) ∧
    ∀ edge ∈ plan.classifiedEdges, ∀ dependency, edge.dependency = some dependency →
      edge.object.key ∈ plan.deliverable.installKeys →
      Precedes plan.deliverable.installKeys dependency.key edge.object.key ∨
      plan.schedule.Decides dependency.key .missing ∨
      plan.schedule.Decides dependency.key .skip ∧
        ∃ package, dependency.key.deliveryPackage? = some package ∧
          package ∈ Selection.packageNames planner.config.targets.skipPackages := by
  obtain ⟨closure, planned⟩ := plan_eq_ok planned
  obtain ⟨graph, classified, graphBuilt, done, scheduled, records⟩ := planClosure_eq_ok planned
  have built := DependencyGraph.built_build graphBuilt
  have classifiedBuilt := Selection.built_classify built done
  have distinct := DependencyGraph.nodup_installKeys classifiedBuilt.toProper scheduled
  rw [records, MigrationPlan.deliverable]
  refine ⟨?_, ?_, ?_⟩
  · rw [(DependencyGraph.schedule_eq_ok scheduled).1]
    exact Schedule.rollback_ofRollback _
  · intro edge member dependency requires
    obtain ⟨id, target, node, other, required, found, alsoFound, objectKey, dependencyKey,
      status⟩ := DependencyGraph.mem_classifiedEdges member requires
    have orders := DependencyGraph.orders_of_requires classifiedBuilt scheduled required found
      alsoFound
    rw [objectKey, dependencyKey]
    refine ⟨?_, ?_, orders.precedes, node.status, orders.decides_second, status⟩
    · exact List.count_eq_one_of_mem distinct orders.decides_second.mem_installKeys
    · exact List.count_eq_one_of_mem distinct orders.decides_first.mem_installKeys
  · intro edge member dependency requires delivered
    obtain ⟨id, target, node, other, required, found, alsoFound, objectKey, dependencyKey, _⟩ :=
      DependencyGraph.mem_classifiedEdges member requires
    have orders := DependencyGraph.orders_of_requires classifiedBuilt scheduled required found
      alsoFound
    rw [objectKey] at delivered
    have nodeInstall : node.status = .install := Schedule.Decides.unique distinct
      orders.decides_second (Schedule.decides_of_mem_restrictedTo delivered)
    rw [objectKey, dependencyKey]
    rcases Selection.status_of_required built.toProper done
        (DependencyGraph.hasStatus_iff.mpr ⟨node, found, nodeInstall⟩) required alsoFound with
      isInstall | isMissing | ⟨isSkip, heldBack⟩
    · exact .inl (orders.precedes_restrictedTo isInstall nodeInstall)
    · exact .inr (.inl (isMissing ▸ orders.decides_first))
    · exact .inr (.inr ⟨isSkip ▸ orders.decides_first, heldBack⟩)

/-- A planner for a procedure that calls another one, one that does not exist
and one of a package that is never delivered. -/
def callingPlanner : Planner where
  config := { targets := { skipPackages := ["HELD"] } }
  catalog := (Snapshot.ofRows [.new "A" .procedure "" "MAIN", .new "A" .procedure "" "HELP",
    .new "A" .package "" "HELD", .new "A" .procedure "HELD" "CALL"]).catalog
  sources := (SourceShelf.ofEntries [.new "A" "" "MAIN" "HELP;LOST;HELD.CALL;",
    .new "A" "" "HELP" "NULL;", .new "A" "" "HELD" "NULL;"]).store

/-- The procedure that calls the others. -/
def callingRoot : ObjectRef := ObjectRef.new (some "A") (.rootLevel .procedure "MAIN")

theorem callingPlanner_dependency_safe :
    ∃ plan after, callingPlanner.plan EdgeList.sink [callingRoot] [] = (.ok plan, after) ∧
      plan.deliverable.installKeys = [.rootLevel .procedure "HELP", .rootLevel .procedure "MAIN"] ∧
      plan.schedule.rollback = Schedule.numbered plan.schedule.install.reverse ∧
      ∀ edge ∈ plan.classifiedEdges, ∀ dependency, edge.dependency = some dependency →
        Precedes plan.schedule.installKeys dependency.key edge.object.key := by
  have succeeds : (callingPlanner.plan EdgeList.sink [callingRoot] []).1.toOption.map
        (fun plan => plan.deliverable.installKeys) =
      some [.rootLevel .procedure "HELP", .rootLevel .procedure "MAIN"] := by
    with_unfolding_all rfl
  obtain ⟨plan, after, planned, keys⟩ := Outcome.eq_ok_of_reading succeeds
  obtain ⟨reverse, records, _⟩ := plan_dependency_safe planned
  refine ⟨plan, after, planned, keys, reverse, fun edge member dependency requires => ?_⟩
  exact (records edge member dependency requires).2.2.1

end Planner

end SchemaPlan
