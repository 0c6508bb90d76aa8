import SchemaPlan.Catalog
import SchemaPlan.Closure.Expansion
import SchemaPlan.Graph.Build
import SchemaPlan.Plan.Basic
import SchemaPlan.Schedule.Basic

/-!
# Planning

A root is written `OWNER.NAME` or `OWNER.PACKAGE.NAME`, in any case and with blanks around the
segments.

A plan is made in four steps: the closure of the roots, the graph of its records, the
classification of the nodes and their schedule.  The first failure ends the planning.  Whether the
run is cancelled is asked in every iteration of the closure, after the closure and after the
classification.
-/

set_option autoImplicit false

namespace SchemaPlan

/-! ## Roots -/

/-- An object named as a starting point. -/
structure Root where
  owner : String
  package : Option String
  name : String
deriving DecidableEq, Repr

namespace Root

/-- The failure of a text that is no root. -/
def malformed (raw : String) : ConfigError :=
  .validationFailed "targets.roots" ("'" ++ raw ++ "' is not OWNER.NAME or OWNER.PACKAGE.NAME")

/-- The failure of a root that does not exist. -/
def notFound (raw : String) : ConfigError :=
  .validationFailed "targets.roots" ("'" ++ raw ++ "' not found in catalog")

/-- Reads a root. -/
def parse (raw : String) : Except ConfigError Root :=
  let segments := (Text.splitOn '.' (Text.canonical raw)).map Text.trim
  if segments.any String.isEmpty then .error (malformed raw)
  else match segments with
    | [owner, name] => .ok ⟨owner, none, name⟩
    | [owner, package, name] => .ok ⟨owner, some package, name⟩
    | _ => .error (malformed raw)

/-- The object that a root means, if it exists. -/
def resolve (root : Root) (catalog : Catalog) : Except CatalogError (Option ObjectRef) := do
  let rows ← match root.package with
    | some package => catalog.findInPackage (some root.owner) package [root.name]
    | none => catalog.findByOwner (some root.owner) [root.name]
  return (CatalogRow.least? (rows.filter fun row => row.key.name == root.name)).map (·.toRef)

end Root

/-! ## Plans -/

/-- What planning works with. -/
structure Planner where
  config : Config
  catalog : Catalog
  sources : SourceStore
  /-- The answer to each successive check whether the run is cancelled. -/
  isCancelled : Nat → Bool := fun _ => false
  /-- The records of an earlier run. -/
  prior : List Edge := []

namespace Planner

variable {Log : Type}

/-- The object that a configured root means. -/
def configuredRoot (planner : Planner) (raw : String) : Except PlanError ObjectRef := do
  let root ← (Root.parse raw).mapError .config
  match ← (root.resolve planner.catalog).mapError fun cause => .closure (.catalog cause) with
  | some object => return object
  | none => .error (.config (Root.notFound raw))

/-- The objects that the configured roots mean. -/
def configuredRoots (planner : Planner) : Except PlanError (List ObjectRef) :=
  planner.config.targets.roots.mapM planner.configuredRoot

/-- The expansion of the closure. -/
def expansion (planner : Planner) : Expansion where
  catalog := planner.catalog
  sources := planner.sources
  config := planner.config.closure
  isCancelled := planner.isCancelled
  prior := planner.prior

/-- Fails if the run is cancelled at a check. -/
def ensureNotCancelled (planner : Planner) (check : Nat) : Except PlanError Unit :=
  if planner.isCancelled check then .error .cancelled else .ok ()

/-- The plan for a closure. -/
def planClosure (planner : Planner) (closure : Closure) : Except PlanError MigrationPlan := do
  planner.ensureNotCancelled closure.iterations
  let graph ← (DependencyGraph.build planner.config.graph closure.edges).mapError .graph
  let (graph, summary) ←
    ((Selection.ofTargets planner.config.targets).classify closure.missing graph).mapError .graph
  planner.ensureNotCancelled (closure.iterations + 1)
  let schedule ← graph.schedule.mapError .schedule
  return ⟨schedule, graph.classifiedEdges, summary, closure.stats, closure.unresolved⟩

/-- The plan for roots, with the content of the sink. -/
def plan (planner : Planner) (sink : EdgeSink Log) (roots : List ObjectRef) (log : Log) :
    Except PlanError MigrationPlan × Log :=
  match planner.expansion.run sink roots log with
  | (.error failure, log) => (.error (.closure failure), log)
  | (.ok closure, log) => (planner.planClosure closure, log)

/-- The plan for the configured roots, with the content of the sink. -/
def planConfigured (planner : Planner) (sink : EdgeSink Log) (log : Log) :
    Except PlanError MigrationPlan × Log :=
  match planner.configuredRoots with
  | .error failure => (.error failure, log)
  | .ok roots => planner.plan sink roots log

end Planner

end SchemaPlan
