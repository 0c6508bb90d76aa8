import SchemaPlan.Json.Form
import SchemaPlan.Json.Writer
import SchemaPlan.Plan.Basic

/-!
# Plans as JSON
-/

set_option autoImplicit false

namespace SchemaPlan

namespace JsonForm

instance : JsonForm NodeStatus := choice NodeStatus.name NodeStatus.ofName?

instance : JsonForm ScheduledObject where
  toJson object :=
    .object [("order", toJson object.order), ("key", toJson object.key),
      ("owner", toJson object.owner), ("status", toJson object.status)]
  ofJson? value := do
    match ← fields? ["order", "key", "owner", "status"] value with
    | [order, key, owner, status] =>
      return ⟨← required? order, ← required? key, ← nullable? owner, ← required? status⟩
    | _ => none

instance : JsonForm Schedule where
  toJson schedule :=
    .object [("rollback", toJson schedule.rollback), ("install", toJson schedule.install)]
  ofJson? value := do
    match ← fields? ["rollback", "install"] value with
    | [rollback, install] => return ⟨← required? rollback, ← required? install⟩
    | _ => none

instance : JsonForm Summary where
  toJson summary :=
    .object [("install", toJson summary.install), ("skip", toJson summary.skip),
      ("missing", toJson summary.missing), ("inherited", toJson summary.inherited)]
  ofJson? value := do
    match ← fields? ["install", "skip", "missing", "inherited"] value with
    | [install, skip, missing, inherited] =>
      return ⟨← required? install, ← required? skip, ← required? missing, ← required? inherited⟩
    | _ => none

instance : JsonForm ClosureStats where
  toJson stats :=
    .object [("iterations", toJson stats.iterations), ("objects", toJson stats.objects),
      ("edges", toJson stats.edges), ("missing", toJson stats.missing)]
  ofJson? value := do
    match ← fields? ["iterations", "objects", "edges", "missing"] value with
    | [iterations, objects, edges, missing] =>
      return ⟨← iterations.bind natural32?, ← required? objects, ← required? edges,
        ← required? missing⟩
    | _ => none

instance : JsonForm Unresolved where
  toJson unresolved :=
    .object [("kind", toJson unresolved.kind), ("reference", toJson unresolved.reference),
      ("referrer", toJson unresolved.referrer), ("iteration", toJson unresolved.iteration)]
  ofJson? value := do
    match ← fields? ["kind", "reference", "referrer", "iteration"] value with
    | [kind, reference, referrer, iteration] =>
      return ⟨← required? kind, ← required? reference, ← required? referrer,
        ← iteration.bind natural32?⟩
    | _ => none

instance : JsonForm Closure where
  toJson closure :=
    .object [("edges", toJson closure.edges), ("objects", toJson closure.objects),
      ("missing", toJson closure.missing), ("unresolved", toJson closure.unresolved),
      ("iterations", toJson closure.iterations), ("growth", toJson closure.growth)]
  ofJson? value := do
    match ← fields? ["edges", "objects", "missing", "unresolved", "iterations", "growth"] value with
    | [edges, objects, missing, unresolved, iterations, growth] =>
      return ⟨← required? edges, ← required? objects, ← required? missing,
        ← required? unresolved, ← iterations.bind natural32?, ← required? growth⟩
    | _ => none

instance : JsonForm MigrationPlan where
  toJson plan :=
    .object [("schedule", toJson plan.schedule),
      ("classified_edges", toJson plan.classifiedEdges), ("summary", toJson plan.summary),
      ("closure", toJson plan.closure), ("unresolved", toJson plan.unresolved)]
  ofJson? value := do
    match ← fields? ["schedule", "classified_edges", "summary", "closure", "unresolved"] value with
    | [schedule, edges, summary, closure, unresolved] =>
      return ⟨← required? schedule, ← required? edges, ← required? summary, ← required? closure,
        ← required? unresolved⟩
    | _ => none

end JsonForm

/-- A plan as indented JSON. -/
def MigrationPlan.json (plan : MigrationPlan) : String := (JsonForm.toJson plan).indented

end SchemaPlan
