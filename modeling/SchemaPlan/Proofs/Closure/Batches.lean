import SchemaPlan.Proofs.Closure.Log
import SchemaPlan.Proofs.Closure.Recording
import SchemaPlan.Proofs.Closure.Relaxation
import SchemaPlan.Proofs.Closure.Truth

/-!
# The batches of a run

The records that a run has written and those that it has not written yet are the
records of its state, whatever the sink does with them.  So until a run converges
it has only appended batches, and the records of an earlier run followed by these
batches are the records of the state, each once (`Begins.batches`).  In particular
no record is written twice, and none that the earlier run has written.

A list accepts every batch.  Whenever a run succeeds with some sink it succeeds with
a list that holds the records of the earlier run, and leaves the records of the
closure in it (`batches_of_run`).
-/

set_option autoImplicit false

namespace SchemaPlan

namespace SinkCall

theorem batches_append (calls later : List SinkCall) :
    batches (calls ++ later) = batches calls ++ batches later :=
  List.filterMap_append

theorem batches_map_append (written : List (List Edge)) :
    batches (written.map .append) = written := by
  simp [batches, List.filterMap_map, Function.comp_def, batch?]

theorem batches_map_backfill (repairs : List (String × String)) :
    batches (repairs.map fun repair => .backfill repair.1 repair.2) = [] := by
  simp [batches, batch?]

end SinkCall

/-- Records that are added to an empty list are kept where they stand first. -/
theorem EdgeList.append_nil_eq_eraseDups (records : List Edge) :
    append [] records = records.eraseDups := by
  induction records using List.reverseRecOn with
  | nil => rfl
  | append_singleton before last ih =>
      have added : append [] (before ++ [last]) = add (append [] before) last :=
        List.foldl_concat ..
      rw [added, ih, add, eraseDups_append_singleton]
      by_cases present : last ∈ before
      · simp [present]
      · simp [present]

namespace Expansion

variable {Log : Type} {expansion : Expansion} {sink : EdgeSink Log} {roots : List ObjectRef}
  {log : Log} {iteration : Nat} {state : ClosureState} {asked : List Reference}

/-- **Until a run converges it has only appended batches**, and these are the records
that the state has besides those of the earlier run. -/
theorem Begins.batches {content : Log × List SinkCall}
    (begins : Begins expansion sink.recording roots (log, []) iteration state asked content) :
    ∃ written : List (List Edge), content.2 = written.map SinkCall.append ∧
      Synced (EdgeList.append [] expansion.prior ++ written.flatten) state := by
  have preserved := Synced.preserved expansion
  induction begins with
  | @first state content started accepted =>
      obtain ⟨owners, _, taken⟩ := start_eq_ok started
      have synced := (preserved _).takeUpAll (Synced.seed owners expansion.prior) taken
      obtain ⟨after, _, rfl⟩ := EdgeSink.append_recording_eq_ok accepted
      refine ⟨[state.batch], rfl, ?_⟩
      rw [List.flatten_singleton]
      exact synced.written_batch
  | @next iteration state further asked more before after _ _ goesOn ih =>
      obtain ⟨written, isCalls, synced⟩ := ih
      obtain ⟨log, calls⟩ := before
      obtain rfl : calls = written.map SinkCall.append := isCalls
      have turned := turnsInto_turn expansion sink.recording iteration state asked
        (log, written.map .append)
      rw [goesOn] at turned
      cases turned with
      | @onward _ _ resolved _ appended _ _ isResolved accepted =>
          obtain ⟨middle, _, rfl⟩ := EdgeSink.append_recording_eq_ok appended
          obtain ⟨after, _, rfl⟩ := EdgeSink.append_recording_eq_ok accepted
          have scanned := ((preserved _).scanned state synced).written_batch
          have all := ((preserved _).resolveAll scanned isResolved).written_batch
          refine ⟨written ++ [state.scanned.batch, resolved.batch], by simp, ?_⟩
          have flat : EdgeList.append [] expansion.prior ++
              (written ++ [state.scanned.batch, resolved.batch]).flatten =
              EdgeList.append [] expansion.prior ++ written.flatten ++ state.scanned.batch ++
                resolved.batch := by simp
          rw [flat]
          exact all.of_eq rfl rfl

/-! ## Runs that succeed -/

/-- An iteration that ends a run has not been cancelled. -/
theorem uncancelled_of_converged {closure : Closure} {before after : Log}
    (ends : expansion.turn sink iteration state asked before = .converged closure after) :
    expansion.isCancelled (iteration - 1) = false := by
  cases free : expansion.isCancelled (iteration - 1) with
  | false => rfl
  | true =>
      rw [turn, free] at ends
      cases ends

/-- None of the iterations of a run that succeeds has been cancelled. -/
theorem Begins.uncancelled {closure : Closure} {before after : Log}
    (begins : Begins expansion sink roots log iteration state asked before)
    (ends : expansion.turn sink iteration state asked before = .converged closure after)
    {place : Nat} (pos : 1 ≤ place) (order : place ≤ iteration) :
    expansion.isCancelled (place - 1) = false := by
  rcases Nat.lt_or_eq_of_le order with earlier | rfl
  · obtain ⟨_, _, _, _, _, free⟩ := begins.visits pos earlier
    exact free
  · exact uncancelled_of_converged ends

/-- A list accepts whatever another sink does. -/
theorem accepts_list : EdgeList.sink.Accepts (fun _ _ => True) sink where
  append _ _ := ⟨_, rfl, trivial⟩

/-- A list ends a run that is neither cancelled nor has anything pending. -/
theorem turn_list (free : expansion.isCancelled (iteration - 1) = false)
    (nothing : state.pending = []) (edges : List Edge) :
    ∃ after, expansion.turn EdgeList.sink iteration state asked edges =
      .converged (state.scanned.written.grown.closure iteration) after := by
  have appended : EdgeList.sink.append edges state.scanned.batch =
      .ok (EdgeList.append edges state.scanned.batch) := rfl
  rw [turn, free]
  dsimp only
  rw [appended, nothing]
  dsimp only
  rw [if_neg Bool.false_ne_true, if_pos List.isEmpty_nil, finish, backfillSink_list]
  exact ⟨_, rfl⟩

/-- A list leads on when something is pending and all of it can be resolved. -/
theorem turn_list_onward {resolved : ClosureState}
    (free : expansion.isCancelled (iteration - 1) = false) (pending : state.pending ≠ [])
    (patient : expansion.stalled (asked ++ state.pending.map (·.1)) state.pending = [])
    (isResolved : expansion.resolveAll iteration state.scanned.written state.pending = .ok resolved)
    (edges : List Edge) :
    ∃ after, expansion.turn EdgeList.sink iteration state asked edges =
      .onward resolved.written.grown (asked ++ state.pending.map (·.1)) after := by
  have appended : ∀ edges records, EdgeList.sink.append edges records =
      .ok (EdgeList.append edges records) := fun _ _ => rfl
  have something : state.pending.isEmpty = false := by simpa using pending
  rw [turn, free]
  dsimp only
  rw [appended, something]
  dsimp only
  rw [if_neg Bool.false_ne_true, if_neg Bool.false_ne_true, resolvePending, patient]
  rw [isResolved, if_neg (by decide)]
  exact ⟨_, rfl⟩

/-- A list ends the run with an iteration that is begun, is not cancelled and has
nothing pending. -/
theorem Begins.run_list {edges : List Edge} {before : List Edge}
    (begins : Begins expansion EdgeList.sink roots edges iteration state asked before)
    (allowed : iteration ≤ expansion.config.effectiveMaxIterations)
    (free : expansion.isCancelled (iteration - 1) = false) (nothing : state.pending = []) :
    ∃ after, expansion.run EdgeList.sink roots edges =
      (.ok (state.scanned.written.grown.closure iteration), after) := by
  obtain ⟨left, isLimit⟩ := Nat.exists_eq_add_of_le allowed
  have total : left + 1 + iteration = expansion.config.effectiveMaxIterations + 1 := by omega
  obtain ⟨after, turned⟩ := @turn_list expansion iteration state asked free nothing before
  rw [begins.run_eq total, iterate, turned]
  exact ⟨after, rfl⟩

/-- **A run that succeeds with some sink** succeeds with a list, which then holds the
records of the closure. -/
theorem run_list {closure : Closure} {after : Log}
    (done : expansion.run sink roots log = (.ok closure, after)) :
    expansion.run EdgeList.sink roots (EdgeList.append [] expansion.prior) =
      (.ok closure, closure.edges) := by
  obtain ⟨last, final, asked, before, begins, allowed, ends⟩ := run_eq_ok done
  obtain ⟨nothing, rfl⟩ := turn_spec.1 _ _ ends
  obtain ⟨edges, begins, -⟩ := begins.relax (.refl expansion) accepts_list
    trivial
  obtain ⟨after, rest⟩ := begins.run_list allowed (uncancelled_of_converged ends) nothing
  obtain ⟨first, started⟩ := begins.scans.started
  rw [rest, (log_of_run started rest).1 _ rfl]

/-- A run that converges has appended the records that its last state has besides
those of the earlier run. -/
theorem batches_of_converged {last : Nat} {final : ClosureState} {closure : Closure}
    {content after : Log × List SinkCall}
    (begins : Begins expansion sink.recording roots (log, []) last final asked content)
    (ends : expansion.turn sink.recording last final asked content = .converged closure after) :
    final.scanned.edges =
        EdgeList.append [] expansion.prior ++ (SinkCall.batches after.2).flatten ∧
      final.scanned.edges.Nodup := by
  obtain ⟨written, isCalls, synced⟩ := begins.batches
  obtain ⟨content, calls⟩ := content
  obtain rfl : calls = written.map SinkCall.append := isCalls
  have scanned := (Synced.preserved expansion _).scanned final synced
  refine ⟨?_, scanned.distinct⟩
  have turned := turnsInto_turn expansion sink.recording last final asked
    (content, written.map SinkCall.append)
  rw [ends] at turned
  cases turned with
  | converged appended _ repaired =>
      obtain ⟨middle, _, rfl⟩ := EdgeSink.append_recording_eq_ok appended
      obtain ⟨filled, recorded⟩ := @backfillSink_recording _ sink middle
        (written.map SinkCall.append ++ [.append final.scanned.batch])
        final.scanned.written.grown.repairs
      have calls := congrArg (·.2.2) (repaired.symm.trans recorded)
      dsimp only at calls
      rw [scanned.edges, calls, SinkCall.batches_append, SinkCall.batches_append,
        SinkCall.batches_map_append, SinkCall.batches_map_backfill]
      simp [SinkCall.batches, SinkCall.batch?]

/-- An iteration that fails has appended records of its state only. -/
theorem Begins.mem_of_failed {content after : Log × List SinkCall} {failure : ClosureError}
    (begins : Begins expansion sink.recording roots (log, []) iteration state asked content)
    (failed : expansion.turn sink.recording iteration state asked content = .failed failure after)
    {edge : Edge} (appended : edge ∈ (SinkCall.batches after.2).flatten) :
    edge ∈ state.scanned.edges := by
  obtain ⟨written, isCalls, synced⟩ := begins.batches
  obtain ⟨content, calls⟩ := content
  obtain rfl : calls = written.map SinkCall.append := isCalls
  have scanned := ((Synced.preserved expansion _).scanned state synced).edges
  have earlier : edge ∈ written.flatten → edge ∈ state.scanned.edges := by
    intro before
    rw [scanned]
    exact List.mem_append_left _ (List.mem_append_right _ before)
  -- Of the iteration itself nothing or the scan has been appended.
  have either : edge ∈ (written ++ [state.scanned.batch]).flatten →
      edge ∈ state.scanned.edges := by
    rw [List.flatten_append, List.flatten_singleton, List.mem_append]
    rintro (before | here)
    · exact earlier before
    · rw [scanned]
      exact List.mem_append_right _ here
  have batches : SinkCall.batches (written.map .append ++ [.append state.scanned.batch]) =
      written ++ [state.scanned.batch] := by
    rw [SinkCall.batches_append, SinkCall.batches_map_append]
    rfl
  have turned := turnsInto_turn expansion sink.recording iteration state asked
    (content, written.map .append)
  rw [failed] at turned
  cases turned with
  | cancelled _ => exact earlier (SinkCall.batches_map_append written ▸ appended)
  | refused _ _ => exact earlier (SinkCall.batches_map_append written ▸ appended)
  | unrepaired accepted _ unfilled =>
      obtain ⟨middle, _, rfl⟩ := EdgeSink.append_recording_eq_ok accepted
      obtain ⟨filled, recorded⟩ := @backfillSink_recording _ sink middle
        (written.map SinkCall.append ++ [.append state.scanned.batch])
        state.scanned.written.grown.repairs
      rw [congrArg (·.2.2) (unfilled.symm.trans recorded), SinkCall.batches_append,
        SinkCall.batches_map_backfill, List.append_nil, batches] at appended
      exact either appended
  | stalled _ accepted _ | unresolved accepted _ _ | unwritten accepted _ _ _ =>
      obtain ⟨_, _, rfl⟩ := EdgeSink.append_recording_eq_ok accepted
      exact either (batches ▸ appended)

/-- **What a run has appended**, with whatever sink and however it has ended, are
records of scanned states. -/
theorem scans_of_appended {outcome : Except ClosureError Closure} {after : Log}
    {calls : List SinkCall}
    (done : expansion.run sink.recording roots (log, []) = (outcome, after, calls))
    {edge : Edge} (appended : edge ∈ (SinkCall.batches calls).flatten) :
    ∃ iteration state, Scans expansion roots iteration state ∧ edge ∈ state.scanned.edges := by
  cases ends_run done with
  | unstarted _ => exact absurd appended List.not_mem_nil
  | unwritten _ _ => exact absurd appended List.not_mem_nil
  | @exhausted state _ _ begins =>
      obtain ⟨written, rfl, synced⟩ := begins.batches
      rw [SinkCall.batches_map_append] at appended
      refine ⟨_, state, begins.scans, ClosureState.mem_edges_scanned.mpr (.inl ?_)⟩
      rw [synced.edges]
      exact List.mem_append_left _ (List.mem_append_right _ appended)
  | failed begins _ failed => exact ⟨_, _, begins.scans, begins.mem_of_failed failed appended⟩
  | @converged last final _ _ _ _ begins _ ends =>
      refine ⟨last, final, begins.scans, ?_⟩
      rw [(batches_of_converged begins ends).1]
      exact List.mem_append_right _ appended

/-- **The batches of a run that succeeds** hold no record twice and none of the
earlier run, and with a list that holds the records of the earlier run, each once,
the run succeeds as well and leaves the records of the closure. -/
theorem batches_of_run {closure : Closure} {after : Log}
    (done : expansion.run sink roots log = (.ok closure, after)) :
    (∃ calls, expansion.run sink.recording roots (log, []) = (.ok closure, after, calls) ∧
      (SinkCall.batches calls).flatten.Nodup ∧
      ∀ record ∈ (SinkCall.batches calls).flatten, record ∉ expansion.prior) ∧
    expansion.run EdgeList.sink roots expansion.prior.eraseDups =
      (.ok closure, closure.edges) := by
  refine ⟨?_, EdgeList.append_nil_eq_eraseDups expansion.prior ▸ run_list done⟩
  obtain ⟨calls, recorded⟩ := @run_recording _ expansion sink log [] roots
  rw [done] at recorded
  refine ⟨_, recorded, ?_⟩
  obtain ⟨last, final, asked, content, begins, _, ends⟩ := run_eq_ok recorded
  obtain ⟨edges, distinct⟩ := batches_of_converged begins ends
  rw [edges, EdgeList.append_nil_eq_eraseDups] at distinct
  obtain ⟨_, each, apart⟩ := List.nodup_append.mp distinct
  refine ⟨each, fun record written earlier => ?_⟩
  exact apart record (List.mem_eraseDups.mpr earlier) record written rfl

/-- The rows of two procedures. -/
def mutualRows : CatalogRow × CatalogRow :=
  (.new "A" .procedure "" "MAIN", .new "A" .procedure "" "STEP")

/-- The expansion of two procedures that call each other.  One of them also deletes
from a table that does not exist and has the name of the other, of which an earlier
run has kept the same record twice. -/
def mutualExpansion : Expansion where
  catalog := (Snapshot.ofRows [mutualRows.1, mutualRows.2]).catalog
  sources := (SourceShelf.ofEntries [.new "A" "" "MAIN" "STEP(1);\nDELETE FROM STEP;",
    .new "A" "" "STEP" "MAIN(1);"]).store
  config := {}
  prior := [Edge.leaf mutualRows.2.toRef, Edge.leaf mutualRows.2.toRef]

/-- The records of the two procedures.  The last one has been given its owner at the
end. -/
def mutualEdges : List Edge :=
  [Edge.leaf mutualRows.2.toRef, Edge.requires mutualRows.1.toRef mutualRows.2.toRef,
    Edge.requires mutualRows.2.toRef mutualRows.1.toRef,
    Edge.missing (ObjectRef.new none (.rootLevel .table "STEP")),
    Edge.requires mutualRows.1.toRef (ObjectRef.new (some "A") (.rootLevel .table "STEP"))]

theorem edges_mutualExpansion :
    (mutualExpansion.run BatchLog.sink [mutualRows.1.toRef]
      ⟨[Edge.leaf mutualRows.2.toRef], []⟩).1.toOption.map (·.edges) = some mutualEdges := by
  with_unfolding_all rfl

/-- The record of the earlier run is not written again, and the list ends with the
records of the closure. -/
theorem batches_mutualExpansion :
    ∃ closure after calls,
      mutualExpansion.run BatchLog.sink [mutualRows.1.toRef] ⟨[Edge.leaf mutualRows.2.toRef], []⟩ =
        (.ok closure, after) ∧
      mutualExpansion.run BatchLog.sink.recording [mutualRows.1.toRef]
        (⟨[Edge.leaf mutualRows.2.toRef], []⟩, []) = (.ok closure, after, calls) ∧
      (SinkCall.batches calls).flatten.Nodup ∧
      Edge.leaf mutualRows.2.toRef ∉ (SinkCall.batches calls).flatten ∧
      mutualExpansion.run EdgeList.sink [mutualRows.1.toRef] [Edge.leaf mutualRows.2.toRef] =
        (.ok closure, mutualEdges) := by
  obtain ⟨closure, after, done, edges⟩ := Outcome.eq_ok_of_reading edges_mutualExpansion
  obtain ⟨⟨calls, recorded, each, apart⟩, list⟩ := batches_of_run done
  have once : mutualExpansion.prior.eraseDups = [Edge.leaf mutualRows.2.toRef] := by
    with_unfolding_all rfl
  rw [once, edges] at list
  refine ⟨closure, after, calls, done, recorded, each, fun written => ?_, list⟩
  exact apart _ written List.mem_cons_self

end Expansion

end SchemaPlan
