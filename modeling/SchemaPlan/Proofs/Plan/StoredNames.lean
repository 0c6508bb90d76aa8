import SchemaPlan.Proofs.Closure.Interchange
import SchemaPlan.Proofs.Closure.Records
import SchemaPlan.Proofs.Database.EdgeRow
import SchemaPlan.Proofs.Graph.Refusal
import SchemaPlan.Proofs.Plan.Safety

/-!
# The names in a plan

When the roots, the rows of the catalog and the records of an earlier run have their
names in stored form, so has everything that a plan names.  What is found is a row, what
is not found is named by a placeholder, and an object may stand for its package; each of
these is made from its parts (`Expansion.Finishes.isMade_keys`).  The keys of the graph
are those of the confirmed records and of the packages that they are in, and neither the
classification nor the schedule names anything else.

The records of a plan are also told apart: each node has its own, and of two of them one
requires another object than the other (`DependencyGraph.nodup_classifiedEdges`).
-/

set_option autoImplicit false

namespace SchemaPlan

/-! ## Keys in stored form -/

theorem Node.isMade_toRef {node : Node} (made : node.key.IsMade) : node.toRef.IsMade := by
  obtain ⟨objectType, package, name, same⟩ := made
  exact ⟨node.owner, objectType, package, name, by rw [toRef, same]⟩

theorem Edge.IsMade.keysMade {edge : Edge} (made : edge.IsMade) : edge.KeysMade where
  object := made.object.key
  dependency key isKey := by
    obtain ⟨dependency, needed, rfl⟩ := Option.map_eq_some_iff.mp isKey
    exact (made.dependency dependency needed).key

/-! ## The closure -/

namespace Expansion

variable {expansion : Expansion} {roots : List ObjectRef}

/-- An object is delivered as itself or as its package. -/
theorem isMade_deliveryUnit {object dependency : ObjectRef} (made : dependency.key.IsMade) :
    (deliveryUnit object dependency).key.IsMade := by
  rw [deliveryUnit]
  split
  · split
    · exact ObjectKey.isMade_packageNode _
    · exact made
  · exact made

/-- What answers a reference has a key in stored form, whether it is known or missing. -/
theorem AllMade.isMade_target {state : ClosureState} (allMade : AllMade state)
    (sound : expansion.Sound state) (settled : Settled state) {reference : Reference}
    {target : ObjectRef} (answered : state.target? reference = some target) :
    target.key.IsMade := by
  rcases sound.origin settled answered with ⟨⟨member, known, same⟩, _⟩ | ⟨_, rfl, _⟩
  · exact same ▸ (allMade member known).key
  · exact ObjectKey.isMade_new _ _ _

/-- **The confirmed records of a closure** name keys in stored form only. -/
theorem Finishes.isMade_keys {last : Nat} {final : ClosureState} {closure : Closure}
    (finishes : Finishes expansion roots last final closure)
    (answers : expansion.catalog.AnswersMade) (made : ∀ root ∈ roots, root.IsMade)
    (prior : ∀ edge ∈ expansion.prior, edge.IsMade) {edge : Edge} (listed : edge ∈ closure.edges)
    (confirmed : edge.status = .ok) : edge.KeysMade := by
  have priorMade : ∀ object ∈ expansion.priorObjects, object.IsMade := by
    intro object member
    obtain ⟨edge, kept, rfl⟩ := List.mem_map.mp member
    exact (prior edge (List.mem_filter.mp kept).1).object
  obtain ⟨source, origin, _, sameObject, sameKey⟩ :=
    finishes.mem_records.mp ⟨edge, listed, confirmed, rfl, rfl⟩
  have sourceMade : source.KeysMade := by
    rcases origin with inPrior | ⟨iteration, state, scans, member, known, recorded⟩
    · exact (prior source inPrior).keysMade
    · have allMade := scans.allMade answers priorMade made
      obtain ⟨sound, settled⟩ := scans.sound
      rcases ClosureState.mem_recordsOf.mp recorded with
        ⟨rfl, _⟩ | ⟨reference, _, target, answered, _, rfl⟩
      · exact ⟨(allMade member known).key, nofun⟩
      · refine ⟨(allMade member known).key, fun key isKey => ?_⟩
        rw [← Option.some.inj isKey]
        exact isMade_deliveryUnit (allMade.isMade_target sound settled answered)
  exact ⟨sameObject ▸ sourceMade.object,
    fun key isKey => sourceMade.dependency key (sameKey ▸ isKey)⟩

end Expansion

/-! ## The graph -/

namespace DependencyGraph

variable {graph : DependencyGraph}

/-- What is scheduled is a node of the graph. -/
theorem mem_keys_of_schedule {schedule : Schedule} (made : graph.schedule = .ok schedule) :
    (∀ object ∈ schedule.rollback, object.key ∈ graph.keys) ∧
      ∀ object ∈ schedule.install, object.key ∈ graph.keys := by
  have listed : ∀ key ∈ graph.rollbackObjects.map (·.key), key ∈ graph.keys := by
    intro key member
    rw [map_key_rollbackObjects] at member
    obtain ⟨id, _, isKey⟩ := List.mem_filterMap.mp member
    obtain ⟨node, found, rfl⟩ := Option.map_eq_some_iff.mp isKey
    exact mem_keys_of_node? found
  rw [(schedule_eq_ok made).1, Schedule.ofRollback]
  constructor
  · intro object member
    have key := List.mem_map_of_mem (f := (·.key)) member
    rw [Schedule.map_key_numbered] at key
    exact listed _ key
  · intro object member
    have key := List.mem_map_of_mem (f := (·.key)) member
    rw [Schedule.map_key_numbered, List.map_reverse, List.mem_reverse] at key
    exact listed _ key

/-! ## Records of the nodes -/

/-- The records of a graph are made if its keys are in stored form. -/
theorem isMade_classifiedEdges (made : ∀ key ∈ graph.keys, key.IsMade) {edge : Edge}
    (member : edge ∈ graph.classifiedEdges) : edge.IsMade := by
  obtain ⟨id, node, found, listed⟩ := exists_mem_recordsOf member
  obtain ⟨isObject, _, isDependency⟩ := mem_recordsOf listed
  refine ⟨?_, fun dependency needed => ?_⟩
  · rw [isObject]
    exact Node.isMade_toRef (made _ (mem_keys_of_node? found))
  · obtain ⟨_, other, _, alsoFound, rfl⟩ := isDependency dependency needed
    exact Node.isMade_toRef (made _ (mem_keys_of_node? alsoFound))

/-- A node has no record twice. -/
theorem nodup_recordsOf (proper : graph.Proper) (id : Nat) (node : Node) :
    (graph.recordsOf id node).Nodup := by
  rw [recordsOf]
  split
  · exact List.nodup_singleton _
  · have distinct : ((graph.requiredBy id).filterMap fun id =>
        (graph.node? id).map (·.key)).Nodup := by
      refine (nodup_requiredBy proper id).filterMap fun first second key inFirst inSecond => ?_
      obtain ⟨node, found, rfl⟩ := Option.map_eq_some_iff.mp (Option.mem_def.mp inFirst)
      obtain ⟨other, alsoFound, same⟩ := Option.map_eq_some_iff.mp (Option.mem_def.mp inSecond)
      exact proper.eq_of_key_eq found alsoFound same.symm
    rw [← List.map_filterMap] at distinct
    refine List.Nodup.of_map (fun edge => edge.dependency.map (·.key)) ?_
    rw [List.map_map]
    have keyed := distinct.map (Option.some_injective _)
    rw [List.map_map] at keyed
    exact keyed

/-- **No record of a graph is listed twice**, and none is like another one. -/
theorem nodup_classifiedEdges (proper : graph.Proper) : graph.classifiedEdges.Nodup := by
  refine List.nodup_flatMap.mpr ⟨fun id _ => ?_, ?_⟩
  · split
    · exact nodup_recordsOf proper id _
    · exact List.nodup_nil
  · have distinct : graph.scheduled.Nodup := List.nodup_range.filter _
    refine distinct.imp fun {first second} differ => ?_
    intro edge here there
    dsimp only at here there
    split at here
    · next node found =>
      split at there
      · next other alsoFound =>
        have same : node.key = other.key := by
          have objects := (mem_recordsOf here).1.symm.trans (mem_recordsOf there).1
          exact congrArg ObjectRef.key objects
        exact differ (proper.eq_of_key_eq found alsoFound same)
      · exact List.not_mem_nil there
    · exact List.not_mem_nil here

end DependencyGraph

/-! ## Plans -/

namespace Planner

variable {planner : Planner} {plan : MigrationPlan} {Log : Type} {sink : EdgeSink Log}
  {roots : List ObjectRef} {log after : Log}

/-- What can be relied on when a plan is stored. -/
structure PlanIsMade (plan : MigrationPlan) : Prop where
  rollback : ∀ object ∈ plan.schedule.rollback, object.key.IsMade
  install : ∀ object ∈ plan.schedule.install, object.key.IsMade
  rollbackPlaces : plan.schedule.rollback.map (·.order) =
    List.range' 1 plan.schedule.rollback.length
  installPlaces : plan.schedule.install.map (·.order) =
    List.range' 1 plan.schedule.install.length
  sameLength : plan.schedule.rollback.length = plan.schedule.size
  records : ∀ edge ∈ plan.classifiedEdges, edge.IsMade
  distinct : plan.classifiedEdges.Nodup

/-- **Every plan from names in stored form** names keys in stored form, counts the places of
both lists from one, and has no record twice. -/
theorem plan_isMade (answers : planner.catalog.AnswersMade) (made : ∀ root ∈ roots, root.IsMade)
    (prior : ∀ edge ∈ planner.prior, edge.IsMade)
    (planned : planner.plan sink roots log = (.ok plan, after)) : PlanIsMade plan := by
  obtain ⟨closure, ran, planned⟩ := exists_closure_of_plan planned
  obtain ⟨_, _, finishes⟩ := Expansion.finishes_of_run ran
  obtain ⟨graph, classified, graphBuilt, done, scheduled, records⟩ := planClosure_eq_ok planned
  have edgesMade : ∀ edge ∈ closure.edges, edge.status = .ok → edge.KeysMade :=
    fun edge listed confirmed => finishes.isMade_keys answers made prior listed confirmed
  have keysMade : ∀ key ∈ classified.keys, key.IsMade := by
    have reflects := DependencyGraph.reflects_ofEdges (DependencyGraph.build_eq_ok_iff.mp graphBuilt).1
    rw [Selection.keys_classify done]
    exact fun key member => reflects.isMade_of_mem_keys edgesMade member
  have built := Selection.built_classify (DependencyGraph.built_build graphBuilt) done
  obtain ⟨rollback, install⟩ := DependencyGraph.mem_keys_of_schedule scheduled
  have places : ∀ objects : List ScheduledObject, (Schedule.numbered objects).map (·.order) =
      List.range' 1 (Schedule.numbered objects).length := by
    intro objects
    rw [Schedule.map_order_numbered, Schedule.numbered, List.length_mapIdx]
  have numbered := (DependencyGraph.schedule_eq_ok scheduled).1
  refine ⟨fun object member => keysMade _ (rollback object member),
    fun object member => keysMade _ (install object member), ?_, ?_, ?_, ?_, ?_⟩
  · rw [numbered]
    exact places _
  · rw [numbered]
    exact places _
  · rw [numbered]
    simp [Schedule.ofRollback, Schedule.numbered, Schedule.size]
  · rw [records]
    exact fun edge member => DependencyGraph.isMade_classifiedEdges keysMade member
  · rw [records]
    exact DependencyGraph.nodup_classifiedEdges built.toProper

end Planner

end SchemaPlan
