import SchemaPlan.Proofs.Closure.Batches
import SchemaPlan.Proofs.Closure.Convergence

/-!
# Runs that are interrupted

A run that stops before it has converged has only appended batches, each of them
whole.  A run of an expansion that relaxes it begins the same iterations with the
same states, so it appends these batches first, and whatever it does besides comes
later (`interrupted_leaves_prefix`).

A run that has converged may still fail, when the sink does not fill in an owner.
No other failure comes so late: only a failure of the sink has to be told from one
that strikes after all records have been written (`Converges`).
-/

set_option autoImplicit false

namespace SchemaPlan.Expansion

variable {Log : Type} {expansion : Expansion} {sink : EdgeSink Log} {roots : List ObjectRef}
  {log : Log} {iteration : Nat} {state : ClosureState} {asked : List Reference} {before : Log}

/-- A run converges: an iteration that is carried out scans a state with nothing
pending, and the sink accepts what is left to be written. -/
def Converges (expansion : Expansion) (sink : EdgeSink Log) (roots : List ObjectRef)
    (log : Log) : Prop :=
  ∃ iteration state asked before accepted,
    Begins expansion sink roots log iteration state asked before ∧
    iteration ≤ expansion.config.effectiveMaxIterations ∧
    expansion.isCancelled (iteration - 1) = false ∧ state.pending = [] ∧
    sink.append before state.scanned.batch = .ok accepted

/-- A run completes an iteration: it carries it out and is led on. -/
def Completes (expansion : Expansion) (sink : EdgeSink Log) (roots : List ObjectRef) (log : Log)
    (iteration : Nat) : Prop :=
  ∃ state asked before further more after,
    Begins expansion sink roots log iteration state asked before ∧
    iteration ≤ expansion.config.effectiveMaxIterations ∧
    expansion.turn sink iteration state asked before = .onward further more after

/-! ## Completed iterations -/

/-- A run begins an iteration in one way. -/
theorem Begins.unique {other : ClosureState} {more : List Reference} {content : Log}
    (begins : Begins expansion sink roots log iteration state asked before)
    (again : Begins expansion sink roots log iteration other more content) :
    state = other ∧ asked = more ∧ before = content := by
  induction begins generalizing other more content with
  | first started accepted =>
      cases again with
      | first alsoStarted alsoAccepted =>
          obtain rfl := Except.ok.inj (started.symm.trans alsoStarted)
          exact ⟨rfl, rfl, Except.ok.inj (accepted.symm.trans alsoAccepted)⟩
      | next before _ _ => exact absurd before.scans.pos (Nat.lt_irrefl 0)
  | next begins _ goesOn ih =>
      cases again with
      | first _ _ => exact absurd begins.scans.pos (Nat.lt_irrefl 0)
      | next alsoBegins _ alsoGoesOn =>
          obtain ⟨rfl, rfl, rfl⟩ := ih alsoBegins
          exact Turn.onward.inj (goesOn.symm.trans alsoGoesOn)

theorem Begins.le (begins : Begins expansion sink roots log iteration state asked before) :
    iteration ≤ expansion.config.effectiveMaxIterations + 1 := by
  cases begins with
  | first _ _ => exact Nat.le_add_left 1 _
  | next _ allowed _ => exact Nat.succ_le_succ allowed

/-- The completed iterations are those after which a further one is begun. -/
theorem completes_iff : expansion.Completes sink roots log iteration ↔
    1 ≤ iteration ∧ ∃ further more after,
      Begins expansion sink roots log (iteration + 1) further more after := by
  constructor
  · rintro ⟨state, asked, before, further, more, after, begins, allowed, goesOn⟩
    exact ⟨begins.scans.pos, further, more, after, begins.next allowed goesOn⟩
  · rintro ⟨pos, further, more, after, next⟩
    cases next with
    | first _ _ => exact absurd pos (Nat.not_succ_le_zero 0)
    | next begins allowed goesOn => exact ⟨_, _, _, _, _, _, begins, allowed, goesOn⟩

/-- The iterations before one that leads nowhere are the completed ones. -/
theorem completes_iff_lt (begins : Begins expansion sink roots log iteration state asked before)
    (stuck : ∀ further more after,
      expansion.turn sink iteration state asked before ≠ .onward further more after)
    {place : Nat} : expansion.Completes sink roots log place ↔ 1 ≤ place ∧ place < iteration := by
  rw [completes_iff]
  refine and_congr_right fun pos => ⟨?_, fun earlier => ?_⟩
  · rintro ⟨further, more, after, later⟩
    by_contra notEarlier
    obtain ⟨_, _, _, next⟩ := later.earlier (Nat.le_add_left 1 iteration) (by omega)
    obtain ⟨_, _, alsoBegins, _, goesOn⟩ := next.inv_succ begins.scans
    obtain ⟨-, rfl, rfl⟩ := begins.unique alsoBegins
    exact stuck _ _ _ goesOn
  · exact begins.earlier (Nat.le_add_left 1 place) earlier

/-- **A cancelled run tells how many iterations it has completed.** -/
theorem completes_of_cancelled {completed : Nat} {after : Log}
    (stopped : expansion.run sink roots log = (.error (.cancelled completed), after))
    {place : Nat} :
    expansion.Completes sink roots log place ↔ 1 ≤ place ∧ place ≤ completed := by
  cases ends_run stopped with
  | unstarted notStarted => cases start_eq_error notStarted
  | @failed last final asked before _ _ begins _ turned =>
      have stuck : ∀ further more after,
          expansion.turn sink last final asked before ≠ .onward further more after := by
        intro further more after goesOn
        cases turned.symm.trans goesOn
      refine (completes_iff_lt begins stuck).trans (and_congr_right fun _ => ?_)
      have pos := begins.scans.pos
      have cases := turnsInto_turn expansion sink last final asked before
      rw [turned] at cases
      cases cases with
      | cancelled _ => omega
      | unrepaired _ _ failed =>
          obtain ⟨_, isStorage⟩ := backfillSink_eq_error failed
          cases isStorage
      | unresolved _ _ failed => cases resolveAll_eq_error failed

/-! ## Recorded calls -/

/-- What has been recorded when an iteration begins stays recorded. -/
theorem Begins.recorded {content : Log} {calls : List SinkCall}
    (begins : Begins expansion sink.recording roots (log, []) iteration state asked
      (content, calls)) :
    calls <+: (expansion.run sink.recording roots (log, [])).2.2 := by
  obtain ⟨left, isLimit⟩ := Nat.exists_eq_add_of_le begins.le
  have total : left + iteration = expansion.config.effectiveMaxIterations + 1 := by omega
  rw [begins.run_eq total]
  obtain ⟨more, recorded⟩ := @iterate_recording _ expansion sink content calls left iteration state asked
  rw [recorded]
  exact List.prefix_append _ _

/-- What an iteration writes after its scan stays recorded. -/
theorem Begins.recorded_append {content accepted : Log} {calls : List SinkCall}
    (begins : Begins expansion sink.recording roots (log, []) iteration state asked
      (content, calls))
    (allowed : iteration ≤ expansion.config.effectiveMaxIterations)
    (free : expansion.isCancelled (iteration - 1) = false)
    (appended : sink.append content state.scanned.batch = .ok accepted) :
    calls ++ [.append state.scanned.batch] <+:
      (expansion.run sink.recording roots (log, [])).2.2 := by
  obtain ⟨left, isLimit⟩ := Nat.exists_eq_add_of_le allowed
  have total : left + 1 + iteration = expansion.config.effectiveMaxIterations + 1 := by omega
  rw [begins.run_eq total, iterate]
  obtain ⟨more, recorded⟩ :=
    @turn_recording_of_append _ expansion sink content calls iteration state asked _ free appended
  rw [recorded]
  cases expansion.turn sink iteration state asked content with
  | failed failure after => exact List.prefix_append _ _
  | converged closure after => exact List.prefix_append _ _
  | onward further asked after =>
      obtain ⟨others, rest⟩ := @iterate_recording _ expansion sink after
        (calls ++ [.append state.scanned.batch] ++ more) left (iteration + 1) further asked
      dsimp only [Turn.mapLog]
      rw [rest, List.append_assoc]
      exact List.prefix_append _ _

/-! ## Interrupted runs -/

variable {relaxed strict : Expansion} {steady failing : EdgeSink Log}

theorem accepts_recording (accepts : steady.Accepts Eq failing) :
    steady.recording.Accepts Eq failing.recording where
  append := by
    rintro ⟨content, calls⟩ after _ records rfl appended
    obtain ⟨next, accepted, rfl⟩ := EdgeSink.append_recording_eq_ok appended
    obtain ⟨_, accepted, rfl⟩ := accepts.append rfl accepted
    refine ⟨_, ?_, rfl⟩
    rw [EdgeSink.append_recording, accepted]
    rfl

/-- A sink accepts what it accepts while it records. -/
theorem accepts_unrecorded : sink.Accepts (fun content other => content.1 = other) sink.recording where
  append := by
    rintro ⟨content, calls⟩ after _ records rfl appended
    obtain ⟨next, accepted, rfl⟩ := EdgeSink.append_recording_eq_ok appended
    exact ⟨next, accepted, rfl⟩

/-- Where a run fails in an iteration it has written nothing of it, or just the
records of the scan; or it had converged. -/
theorem calls_of_failed {content after : Log × List SinkCall} {failure : ClosureError}
    (begins : Begins strict failing.recording roots (log, []) iteration state asked content)
    (allowed : iteration ≤ strict.config.effectiveMaxIterations)
    (failed : strict.turn failing.recording iteration state asked content = .failed failure after) :
    after = content ∨
      (strict.isCancelled (iteration - 1) = false ∧ ∃ accepted,
        failing.append content.1 state.scanned.batch = .ok accepted ∧
        after = (accepted, content.2 ++ [.append state.scanned.batch])) ∨
      (∃ cause, failure = .storage cause) ∧ strict.Converges failing roots log := by
  have turned := turnsInto_turn strict failing.recording iteration state asked content
  rw [failed] at turned
  cases free : strict.isCancelled (iteration - 1) with
  | true =>
      rw [turn, free] at failed
      exact .inl (Turn.failed.inj failed).2.symm
  | false =>
      cases turned with
      | cancelled _ => exact .inl rfl
      | refused _ _ => exact .inl rfl
      | unrepaired appended nothing unfilled =>
          obtain ⟨_, begins, rfl⟩ := begins.relax (.refl strict) accepts_unrecorded rfl
          obtain ⟨accepted, appended, _⟩ := EdgeSink.append_recording_eq_ok appended
          exact .inr (.inr ⟨backfillSink_eq_error unfilled,
            _, _, _, _, accepted, begins, allowed, free, nothing, appended⟩)
      | stalled _ appended _ =>
          obtain ⟨accepted, written, rfl⟩ := EdgeSink.append_recording_eq_ok appended
          exact .inr (.inl ⟨rfl, accepted, written, rfl⟩)
      | unresolved appended _ _ =>
          obtain ⟨accepted, written, rfl⟩ := EdgeSink.append_recording_eq_ok appended
          exact .inr (.inl ⟨rfl, accepted, written, rfl⟩)
      | unwritten appended _ _ _ =>
          obtain ⟨accepted, written, rfl⟩ := EdgeSink.append_recording_eq_ok appended
          exact .inr (.inl ⟨rfl, accepted, written, rfl⟩)

/-- **A run that is interrupted leaves whole batches**, and they are the first ones of
every run that goes further: the same catalog, sources, roots and records of an
earlier run, with fewer failures and cancellations and with larger limits.  No owner
has been filled in.  If the run is cancelled it tells how many iterations it has
completed. -/
theorem interrupted_leaves_prefix (relaxes : relaxed.Relaxes strict)
    (accepts : steady.Accepts Eq failing) {failure : ClosureError} {after : Log}
    (stopped : strict.run failing roots log = (.error failure, after))
    (early : ∀ cause, failure = .storage cause → ¬ strict.Converges failing roots log) :
    (∃ written : List (List Edge),
      strict.run failing.recording roots (log, []) =
        (.error failure, after, written.map SinkCall.append) ∧
      written.map SinkCall.append <+: (relaxed.run steady.recording roots (log, [])).2.2) ∧
    ∀ completed, failure = .cancelled completed → ∀ iteration,
      strict.Completes failing roots log iteration ↔ 1 ≤ iteration ∧ iteration ≤ completed := by
  refine ⟨?_, fun completed isCancelled iteration => ?_⟩
  · obtain ⟨calls, recorded⟩ := @run_recording _ strict failing log [] roots
    rw [stopped, List.nil_append] at recorded
    suffices shown : ∃ written : List (List Edge), calls = written.map SinkCall.append ∧
        calls <+: (relaxed.run steady.recording roots (log, [])).2.2 by
      obtain ⟨written, rfl, first⟩ := shown
      exact ⟨written, recorded, first⟩
    have alsoAccepts := accepts_recording accepts
    cases ends_run recorded with
    | unstarted _ => exact ⟨[], rfl, List.nil_prefix⟩
    | unwritten _ _ => exact ⟨[], rfl, List.nil_prefix⟩
    | exhausted begins =>
        obtain ⟨written, isCalls, _⟩ := begins.batches
        obtain ⟨_, begins, rfl⟩ := begins.relax relaxes alsoAccepts rfl
        exact ⟨written, isCalls, begins.recorded⟩
    | @failed last final asked content _ _ begins allowed turned =>
        obtain ⟨written, isCalls, _⟩ := begins.batches
        obtain ⟨_, further, rfl⟩ := begins.relax relaxes alsoAccepts rfl
        rcases calls_of_failed begins allowed turned with
          rfl | ⟨free, accepted, appended, isAfter⟩ | ⟨⟨cause, isStorage⟩, converges⟩
        · exact ⟨written, isCalls, further.recorded⟩
        · obtain ⟨rfl, rfl⟩ := Prod.mk.inj isAfter
          obtain ⟨_, appended, rfl⟩ := accepts.append rfl appended
          refine ⟨written ++ [final.scanned.batch], ?_, further.recorded_append
            (allowed.trans relaxes.iterations) (relaxes.uncancelled _ free) appended⟩
          rw [isCalls, List.map_append, List.map_singleton]
        · exact absurd converges (early cause isStorage)
  · exact completes_of_cancelled (isCancelled ▸ stopped)

/-- The expansion of three procedures, cancelled after its second iteration. -/
def cancelledExpansion : Expansion :=
  { chainedExpansion with isCancelled := fun check => decide (2 ≤ check) }

/-- What the cancelled expansion has written: that the first procedure requires the
second, and that the third has no source. -/
def cancelledLog : BatchLog :=
  let step (name : String) := ObjectRef.new (some "A") (.rootLevel .procedure name)
  (BatchLog.empty.append [Edge.requires chainedRoot (step "HELP")]).append
    [Edge.missing (step "DEEP")]

theorem stopped_cancelledExpansion :
    cancelledExpansion.run BatchLog.sink [chainedRoot] BatchLog.empty =
      (.error (.cancelled 2), cancelledLog) := by
  with_unfolding_all rfl

theorem relaxes_cancelledExpansion : chainedExpansion.Relaxes cancelledExpansion where
  owners := .refl _
  findInPackage _ _ _ := .refl _
  findByOwner _ _ := .refl _
  existingPackages _ := .refl _
  fetch _ := .refl _
  prior := rfl
  extractor := rfl
  iterations := Nat.le_refl _
  repeats := Nat.le_refl _
  uncancelled _ _ := rfl

/-- The cancelled expansion leaves the first batches of the one that is not
cancelled, and has completed two iterations. -/
theorem cancelledExpansion_leaves_prefix :
    (∃ written : List (List Edge),
      cancelledExpansion.run BatchLog.sink.recording [chainedRoot] (BatchLog.empty, []) =
        (.error (.cancelled 2), cancelledLog, written.map SinkCall.append) ∧
      written.map SinkCall.append <+:
        (chainedExpansion.run BatchLog.sink.recording [chainedRoot] (BatchLog.empty, [])).2.2) ∧
    ∀ iteration, cancelledExpansion.Completes BatchLog.sink [chainedRoot] BatchLog.empty iteration ↔
      1 ≤ iteration ∧ iteration ≤ 2 := by
  obtain ⟨first, completed⟩ := interrupted_leaves_prefix relaxes_cancelledExpansion
    (.refl BatchLog.sink) stopped_cancelledExpansion fun _ isStorage => nomatch isStorage
  exact ⟨first, completed 2 rfl⟩

end SchemaPlan.Expansion
