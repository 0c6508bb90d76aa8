import SchemaPlan.Closure.State
import SchemaPlan.Config.Basic
import SchemaPlan.Reference.Resolution
import SchemaPlan.Source.Basic

/-!
# Expanding a closure

An expansion starts from the roots and the records of an earlier run.  Each iteration scans the
known objects, writes the records found, and asks the catalog for the pending references.  When
nothing is pending the closure is complete.  The records are written to a sink as they are found,
so the answer comes with the content of the sink, whether the expansion succeeds or not.
-/

set_option autoImplicit false

namespace SchemaPlan

/-- What an expansion works with. -/
structure Expansion where
  catalog : Catalog
  sources : SourceStore
  config : ClosureConfig
  /-- The answer to each successive check whether the run is cancelled. -/
  isCancelled : Nat → Bool := fun _ => false
  /-- The records of an earlier run. -/
  prior : List Edge := []

/-- What one iteration leads to, with the content of the sink. -/
inductive Turn (Log : Type) where
  | failed (failure : ClosureError) (log : Log)
  | converged (closure : Closure) (log : Log)
  | onward (state : ClosureState) (asked : List Reference) (log : Log)

namespace Expansion

/-! ## Admission -/

/-- The references in the source of an object, if it has a source. -/
def referencesOf (expansion : Expansion) (object : ObjectRef) :
    Except ClosureError (Option References) := do
  match ← (expansion.sources.fetch object).mapError .source with
  | none => return none
  | some lines =>
    let references ← (expansion.config.extractor.extractLines expansion.catalog lines).mapError
      .catalog
    return some references

/-- Takes up an object, unless its key is known. -/
def takeUpObject (expansion : Expansion) (state : ClosureState) (object : ObjectRef) :
    Except ClosureError ClosureState :=
  if state.knows object.key then .ok state
  else do
    let references ← expansion.referencesOf object
    return state.enter object references

/-- The package that an object is delivered with, when it is a member of one. -/
def containerOf? (object : ObjectRef) : Option ObjectRef :=
  object.key.package?.map fun package =>
    ObjectRef.new object.owner (ObjectKey.packageNode package)

/-- Takes up an object and the package that it is delivered with, unless the object is known. -/
def takeUp (expansion : Expansion) (state : ClosureState) (object : ObjectRef) :
    Except ClosureError ClosureState :=
  if state.knows object.key then .ok state
  else do
    let admitted ← expansion.takeUpObject state object
    match containerOf? object with
    | some container => expansion.takeUpObject admitted container
    | none => return admitted

/-- The objects of the confirmed records of an earlier run that have an owner. -/
def priorObjects (expansion : Expansion) : List ObjectRef :=
  (expansion.prior.filter fun edge =>
    decide (edge.status = .ok) && edge.object.owner.isSome).map (·.object)

/-- The state before the first iteration. -/
def start (expansion : Expansion) (roots : List ObjectRef) : Except ClosureError ClosureState := do
  let owners ← expansion.catalog.owners.mapError .catalog
  (expansion.priorObjects ++ roots).foldlM expansion.takeUp
    ((ClosureState.initial owners).seed expansion.prior)

/-! ## Resolution -/

/-- Asks the catalog for a pending reference and takes up the object found. -/
def resolveOne (expansion : Expansion) (iteration : Nat) (state : ClosureState)
    (entry : Reference × ObjectRef) : Except ClosureError ClosureState := do
  match ← (entry.1.resolve entry.2.owner expansion.catalog).mapError .catalog with
  | some row => expansion.takeUp (state.noteFound entry.1 row.toRef) row.toRef
  | none => return state.noteUnresolved entry.1 entry.2 iteration

/-- Asks the catalog for pending references one after the other. -/
def resolveAll (expansion : Expansion) (iteration : Nat) (state : ClosureState)
    (pending : List (Reference × ObjectRef)) : Except ClosureError ClosureState :=
  pending.foldlM (expansion.resolveOne iteration) state

/-- The pending references that have been pending too often. -/
def stalled (expansion : Expansion) (asked : List Reference)
    (pending : List (Reference × ObjectRef)) : List Reference :=
  (pending.map (·.1)).filter fun reference =>
    decide (expansion.config.effectiveMaxUnresolvedRepeats <
      (asked.filter fun other => decide (other = reference)).length)

/-! ## Iterations -/

variable {Log : Type}

/-- Fills in owners in the sink, one name after the other. -/
def backfillSink (sink : EdgeSink Log) (log : Log) :
    List (String × String) → Except ClosureError Unit × Log
  | [] => (.ok (), log)
  | (name, owner) :: rest =>
    match sink.backfill log name owner with
    | .ok log => backfillSink sink log rest
    | .error failure => (.error (.storage failure), log)

/-- Completes a closure with nothing pending. -/
def finish (sink : EdgeSink Log) (iteration : Nat) (state : ClosureState) (log : Log) :
    Turn Log :=
  match backfillSink sink log state.repairs with
  | (.ok (), log) => .converged (state.closure iteration) log
  | (.error failure, log) => .failed failure log

/-- Asks for the pending references of a scanned state and writes what comes of it. -/
def resolvePending (expansion : Expansion) (sink : EdgeSink Log) (iteration : Nat)
    (state : ClosureState) (asked : List Reference) (pending : List (Reference × ObjectRef))
    (log : Log) : Turn Log :=
  let asked := asked ++ pending.map (·.1)
  let stalled := expansion.stalled asked pending
  if !stalled.isEmpty then
    .failed (.unconverged (stalled.map Reference.describe)
      expansion.config.effectiveMaxUnresolvedRepeats) log
  else
    match expansion.resolveAll iteration state pending with
    | .error failure => .failed failure log
    | .ok resolved =>
      match sink.append log resolved.batch with
      | .error failure => .failed (.storage failure) log
      | .ok log => .onward resolved.written.grown asked log

/-- One iteration.  `asked` holds the references that were pending in earlier iterations. -/
def turn (expansion : Expansion) (sink : EdgeSink Log) (iteration : Nat) (state : ClosureState)
    (asked : List Reference) (log : Log) : Turn Log :=
  if expansion.isCancelled (iteration - 1) then .failed (.cancelled (iteration - 1)) log
  else
    let pending := state.pending
    let scanned := state.scanned
    match sink.append log scanned.batch with
    | .error failure => .failed (.storage failure) log
    | .ok log =>
      if pending.isEmpty then finish sink iteration scanned.written.grown log
      else expansion.resolvePending sink iteration scanned.written asked pending log

/-- Iterates until the closure is complete, at most as often as `left` says. -/
def iterate (expansion : Expansion) (sink : EdgeSink Log) (left iteration : Nat)
    (state : ClosureState) (asked : List Reference) (log : Log) :
    Except ClosureError Closure × Log :=
  match left with
  | 0 => (.error (.iterationLimit expansion.config.effectiveMaxIterations), log)
  | left + 1 =>
    match expansion.turn sink iteration state asked log with
    | .failed failure log => (.error failure, log)
    | .converged closure log => (.ok closure, log)
    | .onward state asked log => expansion.iterate sink left (iteration + 1) state asked log

/-- Expands roots to their closure, writing the records to a sink.  The answer comes with the
content of the sink. -/
def run (expansion : Expansion) (sink : EdgeSink Log) (roots : List ObjectRef) (log : Log) :
    Except ClosureError Closure × Log :=
  match expansion.start roots with
  | .error failure => (.error failure, log)
  | .ok state =>
    match sink.append log state.batch with
    | .error failure => (.error (.storage failure), log)
    | .ok log =>
      expansion.iterate sink expansion.config.effectiveMaxIterations 1 state.written [] log

end Expansion

end SchemaPlan
