import SchemaPlan.Proofs.Delivery.Statuses
import SchemaPlan.Proofs.Graph.Renumbering
import SchemaPlan.Proofs.Plan.Safety
import SchemaPlan.Proofs.Schedule.Completeness

/-!
# Planning after the graph

Once a graph is made of records nothing can go wrong any more.  Cycles are looked for
in the whole graph, and the schedule only needs that the scheduled nodes have none, so
what was let pass for the one is good for the other.  The classification changes
statuses only, and therefore neither refuses the graph nor spoils it for the schedule
(`build_schedules`).  So no planning ends with a failure of the schedule.
-/

set_option autoImplicit false

namespace SchemaPlan

open Relation (TransGen)

/-- A schedule keeps to all requirements of a graph: its objects are listed once, what
is required is installed first, and it is rolled back last. -/
structure Schedule.KeepsTo (schedule : Schedule) (graph : DependencyGraph) : Prop where
  once : schedule.installKeys.Nodup
  installs : ∀ object dependency, graph.RequiresKey object dependency →
    Precedes schedule.installKeys dependency object
  rollsBack : ∀ object dependency, graph.RequiresKey object dependency →
    Precedes (schedule.rollback.map (·.key)) object dependency

namespace DependencyGraph

variable {config : GraphConfig} {edges : List Edge} {graph after : DependencyGraph}

/-- A graph without cycles has none among its scheduled nodes. -/
theorem Acyclic.not_hasScheduledCycle (acyclic : graph.Acyclic) : ¬ graph.HasScheduledCycle := by
  rintro ⟨id, round⟩
  have weaker : graph.Orders ≤ graph.Requires := fun _ _ orders => orders.1
  exact acyclic id (TransGen.mono weaker id id round)

theorem acyclic_of_build (made : build config edges = .ok graph) : graph.Acyclic := by
  obtain ⟨isMade, acyclic⟩ := build_eq_ok_iff.mp made
  rw [acyclic_iff_keys (built_ofEdges isMade).toProper, requiresKey_eq_needs isMade]
  exact acyclic

/-- **A schedule keeps to the graph** that it was made of. -/
theorem Built.keepsTo (built : graph.Built) {schedule : Schedule}
    (made : graph.schedule = .ok schedule) : schedule.KeepsTo graph := by
  have installs : ∀ object dependency, graph.RequiresKey object dependency →
      Precedes schedule.installKeys dependency object := by
    rintro object dependency ⟨id, target, required, isObject, isDependency⟩
    obtain ⟨node, found, rfl⟩ := key?_eq_some.mp isObject
    obtain ⟨other, alsoFound, rfl⟩ := key?_eq_some.mp isDependency
    exact (orders_of_requires built made required found alsoFound).precedes
  refine ⟨nodup_installKeys built.toProper made, installs, fun object dependency required => ?_⟩
  have reversed := (installs object dependency required).reverse
  rw [(schedule_eq_ok made).1, Schedule.rollback_ofRollback, Schedule.map_key_numbered,
    List.map_reverse, ← (schedule_eq_ok made).1]
  exact reversed

end DependencyGraph

namespace Selection

open DependencyGraph

variable {selection : Selection} {missing : OrderedSet ObjectKey} {graph after : DependencyGraph}

/-- Classification leaves the requirements of keys as they are. -/
theorem requiresKey_classified :
    (selection.classified missing graph).RequiresKey = graph.RequiresKey := by
  have keys : (selection.classified missing graph).key? = graph.key? := by
    funext id
    rw [key?, key?, classified, node?_promote, node?_preclassify, Option.map_map, Option.map_map]
    rfl
  funext object dependency
  rw [RequiresKey, keys]
  rfl

/-- **Acyclic graphs of records are classified and scheduled.** -/
theorem exists_schedule_classified (built : graph.Built) (acyclic : graph.Acyclic) :
    ∃ schedule, (selection.classified missing graph).schedule = .ok schedule ∧
      schedule.KeepsTo graph := by
  have classified : (selection.classified missing graph).Built :=
    built_classify built (classify_of_acyclic built.toProper acyclic)
  have stillAcyclic : (selection.classified missing graph).Acyclic := acyclic
  obtain ⟨schedule, made⟩ :=
    (exists_schedule_iff classified.toProper).mpr stillAcyclic.not_hasScheduledCycle
  obtain ⟨once, installs, rollsBack⟩ := classified.keepsTo made
  rw [requiresKey_classified] at installs rollsBack
  exact ⟨schedule, made, once, installs, rollsBack⟩

end Selection

namespace Planner

open DependencyGraph

variable {planner : Planner} {closure : Closure} {failure : ScheduleError}

/-! ## Failures of a planning -/

theorem ensureNotCancelled_ne_schedule {check : Nat} :
    planner.ensureNotCancelled check ≠ .error (.schedule failure) := by
  rw [ensureNotCancelled]
  intro failed
  split at failed <;> cases failed

/-- A failure of a graph is none of a schedule. -/
theorem mapError_graph_ne_schedule {Result : Type} {first : Except GraphError Result} :
    first.mapError PlanError.graph ≠ .error (.schedule failure) := by
  intro failed
  obtain ⟨_, _, other⟩ := Outcome.mapError_eq_error.mp failed
  cases other

/-- After the closure a planning is cancelled, or has no graph, or succeeds. -/
theorem planClosure_ne_schedule : planner.planClosure closure ≠ .error (.schedule failure) := by
  intro failed
  rcases Outcome.bind_eq_error.mp failed with early | ⟨_, _, failed⟩
  · exact ensureNotCancelled_ne_schedule early
  rcases Outcome.bind_eq_error.mp failed with refused | ⟨graph, made, failed⟩
  · exact mapError_graph_ne_schedule refused
  rcases Outcome.bind_eq_error.mp failed with refused | ⟨⟨after, summary⟩, decided, failed⟩
  · exact mapError_graph_ne_schedule refused
  rcases Outcome.bind_eq_error.mp failed with late | ⟨_, _, failed⟩
  · exact ensureNotCancelled_ne_schedule late
  rw [Outcome.mapError_eq_ok] at made decided
  have acyclic := acyclic_of_build made
  rw [Selection.classify_of_acyclic (built_build made).toProper acyclic, Except.ok.injEq,
    Prod.mk.injEq] at decided
  obtain ⟨schedule, scheduled, _⟩ := @Selection.exists_schedule_classified
    (Selection.ofTargets planner.config.targets) closure.missing _ (built_build made) acyclic
  rw [← decided.1, scheduled] at failed
  cases failed

theorem plan_ne_schedule {Log : Type} {sink : EdgeSink Log} {roots : List ObjectRef} {log : Log} :
    (planner.plan sink roots log).1 ≠ .error (.schedule failure) := by
  intro failed
  rw [plan] at failed
  split at failed
  · cases failed
  · exact planClosure_ne_schedule failed

/-- The roots are sought before there is anything to schedule. -/
theorem configuredRoots_ne_schedule : planner.configuredRoots ≠ .error (.schedule failure) := by
  intro failed
  obtain ⟨raw, _, failed⟩ := Outcome.exists_of_mapM_eq_error failed
  rcases Outcome.bind_eq_error.mp failed with unread | ⟨root, _, failed⟩
  · obtain ⟨_, _, other⟩ := Outcome.mapError_eq_error.mp unread
    cases other
  rcases Outcome.bind_eq_error.mp failed with unresolved | ⟨found, _, failed⟩
  · obtain ⟨_, _, other⟩ := Outcome.mapError_eq_error.mp unresolved
    cases other
  · split at failed <;> cases failed

theorem planConfigured_ne_schedule {Log : Type} {sink : EdgeSink Log} {log : Log} :
    (planner.planConfigured sink log).1 ≠ .error (.schedule failure) := by
  intro failed
  rw [planConfigured] at failed
  split at failed
  · next cause unresolved =>
    rw [Except.error.inj failed] at unresolved
    exact configuredRoots_ne_schedule unresolved
  · exact plan_ne_schedule failed

/-- **Once there is a graph, planning succeeds.**  For every graph that is made of records
no placeholder is at an end of a requirement, and for every selection and missing keys the
graph is classified and scheduled, and the schedule keeps to all its requirements.  So no
planning ends with a failure of the schedule. -/
theorem build_schedules :
    (∀ config edges graph, build config edges = .ok graph →
      (∀ pair ∈ graph.requires,
        graph.isScheduled pair.1 = true ∧ graph.isScheduled pair.2 = true) ∧
      ∀ (selection : Selection) (missing : OrderedSet ObjectKey), ∃ after summary schedule,
        selection.classify missing graph = .ok (after, summary) ∧
        after.schedule = .ok schedule ∧ schedule.KeepsTo graph) ∧
    ∀ (planner : Planner) {Log : Type} (sink : EdgeSink Log) (log : Log) (failure : ScheduleError),
      (∀ roots, (planner.plan sink roots log).1 ≠ .error (.schedule failure)) ∧
      (planner.planConfigured sink log).1 ≠ .error (.schedule failure) := by
  refine ⟨fun config edges graph made => ⟨(built_build made).endsScheduled, ?_⟩,
    fun planner _ sink log failure => ⟨fun _ => plan_ne_schedule, planConfigured_ne_schedule⟩⟩
  intro selection missing
  have acyclic := acyclic_of_build made
  obtain ⟨schedule, scheduled, keeps⟩ :=
    Selection.exists_schedule_classified (built_build made) acyclic
  exact ⟨_, _, schedule, Selection.classify_of_acyclic (built_build made).toProper acyclic,
    scheduled, keeps⟩

/-- When the package that is named itself is delivered, it comes after its function and
the function after the table. -/
theorem build_schedules_mixedRecords : ∃ after summary schedule,
    (⟨.ofList ["SALE"], .ofList []⟩ : Selection).classify (.ofList []) mixedGraph =
      .ok (after, summary) ∧
    after.schedule = .ok schedule ∧
    Precedes schedule.installKeys (.rootLevel .table "ITEMS") (.new .function "SALE" "SEND") ∧
    Precedes schedule.installKeys (.new .function "SALE" "SEND") (.packageNode "SALE") := by
  obtain ⟨after, summary, schedule, classified, scheduled, keeps⟩ :=
    (build_schedules.1 {} mixedRecords mixedGraph build_mixedRecords).2
      ⟨.ofList ["SALE"], .ofList []⟩ (.ofList [])
  refine ⟨after, summary, schedule, classified, scheduled, ?_, ?_⟩
  · exact keeps.installs _ _ ⟨0, 2, List.mem_cons_self, rfl, rfl⟩
  · exact keeps.installs _ _ ⟨1, 0, by simp [Requires, mixedGraph], rfl, rfl⟩

end Planner

end SchemaPlan
