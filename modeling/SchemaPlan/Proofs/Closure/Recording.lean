import SchemaPlan.Closure.Expansion

/-!
# What a run asks of its sink

A run appends batches of records to its sink and fills in owners.  A sink can keep
a list of what it has been asked and has done (`EdgeSink.recording`).  A run with
such a sink is the run with the sink itself: it has the same outcome and leaves the
same content (`run_recording`).  So what is said about the calls that are recorded
is said about the run.
-/

set_option autoImplicit false

namespace SchemaPlan

/-- Something that a sink has done. -/
inductive SinkCall where
  | append (records : List Edge)
  | backfill (name owner : String)
deriving DecidableEq, Repr

namespace SinkCall

/-- The records that have been appended by a call. -/
def batch? : SinkCall → Option (List Edge)
  | append records => some records
  | backfill _ _ => none

/-- The batches of records that have been appended, in order. -/
def batches (calls : List SinkCall) : List (List Edge) := calls.filterMap batch?

end SinkCall

variable {Log : Type}

/-- A sink with a list of what it has done. -/
def EdgeSink.recording (sink : EdgeSink Log) : EdgeSink (Log × List SinkCall) where
  append log records :=
    (sink.append log.1 records).map fun after => (after, log.2 ++ [.append records])
  backfill log name owner :=
    (sink.backfill log.1 name owner).map fun after => (after, log.2 ++ [.backfill name owner])

/-- What an iteration leads to, with less of the content of the sink. -/
def Turn.mapLog {Other : Type} (read : Log → Other) : Turn Log → Turn Other
  | failed failure log => failed failure (read log)
  | converged closure log => converged closure (read log)
  | onward state asked log => onward state asked (read log)

namespace EdgeSink

variable {sink : EdgeSink Log} {log : Log} {calls : List SinkCall}

theorem append_recording (records : List Edge) :
    sink.recording.append (log, calls) records =
      (sink.append log records).map fun after => (after, calls ++ [.append records]) := rfl

theorem backfill_recording (name owner : String) :
    sink.recording.backfill (log, calls) name owner =
      (sink.backfill log name owner).map fun after => (after, calls ++ [.backfill name owner]) :=
  rfl

theorem append_recording_eq_ok {records : List Edge} {next : Log × List SinkCall}
    (appended : sink.recording.append (log, calls) records = .ok next) :
    ∃ after, sink.append log records = .ok after ∧
      next = (after, calls ++ [.append records]) := by
  rw [append_recording] at appended
  cases accepted : sink.append log records with
  | error failure =>
      rw [accepted] at appended
      cases appended
  | ok after =>
      rw [accepted] at appended
      exact ⟨after, rfl, (Except.ok.inj appended).symm⟩

end EdgeSink

namespace Expansion

variable {expansion : Expansion} {sink : EdgeSink Log} {log : Log} {calls : List SinkCall}

/-- Filling in owners with a recording sink adds the calls that succeed. -/
theorem backfillSink_recording (repairs : List (String × String)) :
    ∃ filled : List (String × String),
      backfillSink sink.recording (log, calls) repairs =
        ((backfillSink sink log repairs).1, (backfillSink sink log repairs).2,
          calls ++ filled.map fun repair => .backfill repair.1 repair.2) := by
  induction repairs generalizing log calls with
  | nil => exact ⟨[], by rw [List.map_nil, List.append_nil]; rfl⟩
  | cons repair rest ih =>
      obtain ⟨name, owner⟩ := repair
      rw [backfillSink, backfillSink, EdgeSink.backfill_recording]
      cases sink.backfill log name owner with
      | error failure => exact ⟨[], by rw [List.map_nil, List.append_nil]; rfl⟩
      | ok after =>
          obtain ⟨filled, others⟩ := ih
          exact ⟨(name, owner) :: filled, others.trans (by rw [List.append_assoc]; rfl)⟩

theorem finish_recording {iteration : Nat} {state : ClosureState} :
    ∃ more, finish sink.recording iteration state (log, calls) =
      (finish sink iteration state log).mapLog fun after => (after, calls ++ more) := by
  obtain ⟨filled, recorded⟩ := @backfillSink_recording Log sink log calls state.repairs
  refine ⟨filled.map fun repair => .backfill repair.1 repair.2, ?_⟩
  rw [finish, finish, recorded]
  generalize backfillSink sink log state.repairs = outcome
  obtain ⟨outcome, after⟩ := outcome
  cases outcome <;> rfl

theorem resolvePending_recording {iteration : Nat} {state : ClosureState}
    {asked : List Reference} {pending : List (Reference × ObjectRef)} :
    ∃ more, expansion.resolvePending sink.recording iteration state asked pending (log, calls) =
      (expansion.resolvePending sink iteration state asked pending log).mapLog
        fun after => (after, calls ++ more) := by
  have unchanged : (log, calls) = (log, calls ++ []) := by rw [List.append_nil]
  rw [resolvePending, resolvePending]
  split
  · exact ⟨[], unchanged ▸ rfl⟩
  · split
    · exact ⟨[], unchanged ▸ rfl⟩
    · next resolved _ =>
      rw [EdgeSink.append_recording]
      cases sink.append log resolved.batch with
      | error failure => exact ⟨[], unchanged ▸ rfl⟩
      | ok after => exact ⟨_, rfl⟩

/-- An iteration that writes the records of its scan records this first. -/
theorem turn_recording_of_append {iteration : Nat} {state : ClosureState}
    {asked : List Reference} {accepted : Log}
    (free : expansion.isCancelled (iteration - 1) = false)
    (appended : sink.append log state.scanned.batch = .ok accepted) :
    ∃ more, expansion.turn sink.recording iteration state asked (log, calls) =
      (expansion.turn sink iteration state asked log).mapLog
        fun after => (after, calls ++ [.append state.scanned.batch] ++ more) := by
  rw [turn, turn, free]
  dsimp only
  rw [EdgeSink.append_recording, appended, if_neg Bool.false_ne_true, if_neg Bool.false_ne_true]
  dsimp only [Except.map]
  split
  · exact finish_recording
  · exact resolvePending_recording

/-- **An iteration with a recording sink** is the iteration with the sink itself, and
adds calls to those recorded. -/
theorem turn_recording {iteration : Nat} {state : ClosureState} {asked : List Reference} :
    ∃ more, expansion.turn sink.recording iteration state asked (log, calls) =
      (expansion.turn sink iteration state asked log).mapLog
        fun after => (after, calls ++ more) := by
  have unchanged : (log, calls) = (log, calls ++ []) := by rw [List.append_nil]
  cases free : expansion.isCancelled (iteration - 1) with
  | true =>
      rw [turn, turn, free]
      exact ⟨[], unchanged ▸ rfl⟩
  | false =>
      cases appended : sink.append log state.scanned.batch with
      | error failure =>
          rw [turn, turn, free]
          dsimp only
          rw [EdgeSink.append_recording, appended]
          exact ⟨[], unchanged ▸ rfl⟩
      | ok accepted =>
          obtain ⟨more, recorded⟩ := turn_recording_of_append free appended
          exact ⟨_, recorded.trans (by rw [List.append_assoc])⟩

theorem iterate_recording {left iteration : Nat} {state : ClosureState} {asked : List Reference} :
    ∃ more, expansion.iterate sink.recording left iteration state asked (log, calls) =
      ((expansion.iterate sink left iteration state asked log).1,
        (expansion.iterate sink left iteration state asked log).2, calls ++ more) := by
  induction left generalizing iteration state asked log calls with
  | zero => exact ⟨[], by rw [List.append_nil]; rfl⟩
  | succ left ih =>
      obtain ⟨more, recorded⟩ := @turn_recording _ expansion sink log calls iteration state asked
      rw [iterate, iterate, recorded]
      cases expansion.turn sink iteration state asked log with
      | failed failure after => exact ⟨more, rfl⟩
      | converged closure after => exact ⟨more, rfl⟩
      | onward state asked after =>
          obtain ⟨others, rest⟩ := ih
          exact ⟨_, rest.trans (by rw [List.append_assoc])⟩

/-- **A run with a recording sink** is the run with the sink itself. -/
theorem run_recording {roots : List ObjectRef} :
    ∃ more, expansion.run sink.recording roots (log, calls) =
      ((expansion.run sink roots log).1, (expansion.run sink roots log).2, calls ++ more) := by
  rw [run, run]
  cases expansion.start roots with
  | error failure => exact ⟨[], by rw [List.append_nil]⟩
  | ok state =>
      dsimp only
      rw [EdgeSink.append_recording]
      cases sink.append log state.batch with
      | error failure => exact ⟨[], by rw [List.append_nil]; rfl⟩
      | ok after =>
          obtain ⟨others, rest⟩ := iterate_recording
          exact ⟨_, rest.trans (by rw [List.append_assoc])⟩

end Expansion

end SchemaPlan
