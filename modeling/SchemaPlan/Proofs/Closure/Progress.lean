import SchemaPlan.Proofs.Closure.Run

/-!
# The iterations of a run

A run begins its iterations one after the other (`Begins`): the first one with the
state made of the roots and the records of an earlier run, and each further one
with what the iteration before it leads to.  What that can be is said once, with
the condition for each case (`TurnsInto`).  From the beginning of an iteration on,
the run is what is left of the loop (`Begins.run_eq`), so a run ends before the first
iteration, in one that it has begun, or because no iteration is left (`ends_run`).

An iteration that is begun is carried out unless the limit has been reached or
the run is cancelled.  If it is, the state is scanned (`Visits`).
-/

set_option autoImplicit false

namespace SchemaPlan.Expansion

variable {Log : Type} {expansion : Expansion} {sink : EdgeSink Log} {roots : List ObjectRef}
  {log : Log}

/-- A run begins an iteration with a state, the references that have been pending
and the content of the sink. -/
inductive Begins (expansion : Expansion) (sink : EdgeSink Log) (roots : List ObjectRef)
    (log : Log) : Nat → ClosureState → List Reference → Log → Prop
  | first {state : ClosureState} {after : Log} (started : expansion.start roots = .ok state)
      (accepted : sink.append log state.batch = .ok after) :
      Begins expansion sink roots log 1 state.written [] after
  | next {iteration : Nat} {state further : ClosureState} {asked more : List Reference}
      {before after : Log} (begins : Begins expansion sink roots log iteration state asked before)
      (allowed : iteration ≤ expansion.config.effectiveMaxIterations)
      (goesOn : expansion.turn sink iteration state asked before = .onward further more after) :
      Begins expansion sink roots log (iteration + 1) further more after

/-- A run scans a state in an iteration. -/
def Visits (expansion : Expansion) (sink : EdgeSink Log) (roots : List ObjectRef) (log : Log)
    (iteration : Nat) (state : ClosureState) : Prop :=
  ∃ asked before, Begins expansion sink roots log iteration state asked before ∧
    iteration ≤ expansion.config.effectiveMaxIterations ∧
    expansion.isCancelled (iteration - 1) = false

/-! ## One iteration -/

variable {iteration : Nat} {state : ClosureState} {asked : List Reference} {before : Log}

/-- What an iteration can lead to, and when. -/
inductive TurnsInto (expansion : Expansion) (sink : EdgeSink Log) (iteration : Nat)
    (state : ClosureState) (asked : List Reference) (before : Log) : Turn Log → Prop
  | cancelled (isCancelled : expansion.isCancelled (iteration - 1) = true) :
      TurnsInto expansion sink iteration state asked before
        (.failed (.cancelled (iteration - 1)) before)
  | refused {cause : StorageError} (free : expansion.isCancelled (iteration - 1) = false)
      (failed : sink.append before state.scanned.batch = .error cause) :
      TurnsInto expansion sink iteration state asked before (.failed (.storage cause) before)
  | unrepaired {accepted after : Log} {failure : ClosureError}
      (appended : sink.append before state.scanned.batch = .ok accepted)
      (nothing : state.pending = [])
      (failed : backfillSink sink accepted state.scanned.written.grown.repairs =
        (.error failure, after)) :
      TurnsInto expansion sink iteration state asked before (.failed failure after)
  | converged {accepted after : Log}
      (appended : sink.append before state.scanned.batch = .ok accepted)
      (nothing : state.pending = [])
      (repaired : backfillSink sink accepted state.scanned.written.grown.repairs =
        (.ok (), after)) :
      TurnsInto expansion sink iteration state asked before
        (.converged (state.scanned.written.grown.closure iteration) after)
  | stalled {accepted : Log} (free : expansion.isCancelled (iteration - 1) = false)
      (appended : sink.append before state.scanned.batch = .ok accepted)
      (tooOften : expansion.stalled (asked ++ state.pending.map (·.1)) state.pending ≠ []) :
      TurnsInto expansion sink iteration state asked before
        (.failed (.unconverged ((expansion.stalled (asked ++ state.pending.map (·.1))
          state.pending).map Reference.describe)
          expansion.config.effectiveMaxUnresolvedRepeats) accepted)
  | unresolved {accepted : Log} {failure : ClosureError}
      (appended : sink.append before state.scanned.batch = .ok accepted)
      (patient : expansion.stalled (asked ++ state.pending.map (·.1)) state.pending = [])
      (failed : expansion.resolveAll iteration state.scanned.written state.pending =
        .error failure) :
      TurnsInto expansion sink iteration state asked before (.failed failure accepted)
  | unwritten {accepted : Log} {resolved : ClosureState} {cause : StorageError}
      (appended : sink.append before state.scanned.batch = .ok accepted)
      (patient : expansion.stalled (asked ++ state.pending.map (·.1)) state.pending = [])
      (isResolved : expansion.resolveAll iteration state.scanned.written state.pending =
        .ok resolved)
      (failed : sink.append accepted resolved.batch = .error cause) :
      TurnsInto expansion sink iteration state asked before (.failed (.storage cause) accepted)
  | onward {accepted after : Log} {resolved : ClosureState}
      (free : expansion.isCancelled (iteration - 1) = false)
      (appended : sink.append before state.scanned.batch = .ok accepted)
      (pending : state.pending ≠ [])
      (patient : expansion.stalled (asked ++ state.pending.map (·.1)) state.pending = [])
      (isResolved : expansion.resolveAll iteration state.scanned.written state.pending =
        .ok resolved)
      (written : sink.append accepted resolved.batch = .ok after) :
      TurnsInto expansion sink iteration state asked before
        (.onward resolved.written.grown (asked ++ state.pending.map (·.1)) after)

/-- **An iteration leads to nothing else.** -/
theorem turnsInto_turn (expansion : Expansion) (sink : EdgeSink Log) (iteration : Nat)
    (state : ClosureState) (asked : List Reference) (before : Log) :
    TurnsInto expansion sink iteration state asked before
      (expansion.turn sink iteration state asked before) := by
  rw [turn]
  dsimp only
  split
  · next isCancelled => exact .cancelled isCancelled
  · next notCancelled =>
    have free := (Bool.not_eq_true _).mp notCancelled
    split
    · next failed => exact .refused free failed
    · next appended =>
      split
      · next nothing =>
        rw [finish]
        split
        · next repaired => exact .converged appended (List.isEmpty_iff.mp nothing) repaired
        · next failed => exact .unrepaired appended (List.isEmpty_iff.mp nothing) failed
      · next something =>
        rw [resolvePending]
        split
        · next tooOften => exact .stalled free appended (by simpa using tooOften)
        · next goesOn =>
          have patient : expansion.stalled (asked ++ state.pending.map (·.1)) state.pending = [] := by
            simpa using goesOn
          split
          · next failed => exact .unresolved appended patient failed
          · next isResolved =>
            split
            · next failed => exact .unwritten appended patient isResolved failed
            · next written =>
              exact .onward free appended (by simpa using something) patient isResolved written

/-- An iteration that leads on has added its pending references to those asked. -/
theorem turn_eq_onward {further : ClosureState} {more : List Reference} {after : Log}
    (goesOn : expansion.turn sink iteration state asked before = .onward further more after) :
    expansion.isCancelled (iteration - 1) = false ∧ more = asked ++ state.pending.map (·.1) := by
  have turned := turnsInto_turn expansion sink iteration state asked before
  rw [goesOn] at turned
  cases turned with
  | onward free _ _ _ _ _ => exact ⟨free, rfl⟩

/-! ## All iterations -/

namespace Begins

/-- The state of an iteration that is begun is one to be scanned. -/
theorem scans (begins : Begins expansion sink roots log iteration state asked before) :
    Scans expansion roots iteration state := by
  induction begins with
  | first started _ => exact .first started
  | next _ _ goesOn ih =>
      obtain ⟨pending, resolved, isResolved, rfl⟩ := turn_spec.2 _ _ _ goesOn
      exact ih.next pending isResolved

/-- **From the beginning of an iteration on** a run is what is left of the loop. -/
theorem run_eq (begins : Begins expansion sink roots log iteration state asked before) {left : Nat}
    (total : left + iteration = expansion.config.effectiveMaxIterations + 1) :
    expansion.run sink roots log = expansion.iterate sink left iteration state asked before := by
  induction begins generalizing left with
  | first started accepted =>
      obtain rfl : left = expansion.config.effectiveMaxIterations := Nat.succ.inj total
      rw [run, started]
      dsimp only
      rw [accepted]
  | next _ _ goesOn ih =>
      rw [@ih (left + 1) (by omega), iterate, goesOn]

/-- An earlier iteration has been begun as well. -/
theorem earlier (begins : Begins expansion sink roots log iteration state asked before)
    {place : Nat} (pos : 1 ≤ place) (order : place ≤ iteration) :
    ∃ state asked before, Begins expansion sink roots log place state asked before := by
  induction begins with
  | first started accepted =>
      obtain rfl : place = 1 := Nat.le_antisymm order pos
      exact ⟨_, _, _, .first started accepted⟩
  | next begins allowed goesOn ih =>
      rcases Nat.le_or_eq_of_le_succ order with before | rfl
      · exact ih before
      · exact ⟨_, _, _, begins.next allowed goesOn⟩

/-- An iteration leads to the next one that is begun. -/
theorem inv_succ {further : ClosureState} {more : List Reference} {after : Log}
    (begins : Begins expansion sink roots log (iteration + 1) further more after)
    (scans : Scans expansion roots iteration state) :
    ∃ asked before, Begins expansion sink roots log iteration state asked before ∧
      iteration ≤ expansion.config.effectiveMaxIterations ∧
      expansion.turn sink iteration state asked before = .onward further more after := by
  cases begins with
  | first _ _ => exact absurd scans.pos (Nat.lt_irrefl 0)
  | next begins allowed goesOn =>
      obtain rfl := scans.unique begins.scans
      exact ⟨_, _, begins, allowed, goesOn⟩

/-- All states before that of an iteration that is begun have been scanned. -/
theorem visits (begins : Begins expansion sink roots log iteration state asked before)
    {place : Nat} (pos : 1 ≤ place) (order : place < iteration) :
    ∃ earlier, Visits expansion sink roots log place earlier := by
  obtain ⟨further, more, after, next⟩ := begins.earlier (Nat.le_add_left 1 place) order
  cases next with
  | first _ _ => exact absurd pos (Nat.not_succ_le_zero 0)
  | next begins allowed goesOn => exact ⟨_, _, _, begins, allowed, (turn_eq_onward goesOn).1⟩

end Begins

/-! ## Where runs end -/

/-- What a run can end with, and where. -/
inductive Ends (expansion : Expansion) (sink : EdgeSink Log) (roots : List ObjectRef)
    (log : Log) : Except ClosureError Closure → Log → Prop
  | unstarted {failure : ClosureError} (failed : expansion.start roots = .error failure) :
      Ends expansion sink roots log (.error failure) log
  | unwritten {first : ClosureState} {cause : StorageError}
      (started : expansion.start roots = .ok first)
      (failed : sink.append log first.batch = .error cause) :
      Ends expansion sink roots log (.error (.storage cause)) log
  | exhausted {state : ClosureState} {asked : List Reference} {after : Log}
      (begins : Begins expansion sink roots log (expansion.config.effectiveMaxIterations + 1) state
        asked after) :
      Ends expansion sink roots log
        (.error (.iterationLimit expansion.config.effectiveMaxIterations)) after
  | failed {last : Nat} {final : ClosureState} {asked : List Reference} {before after : Log}
      {failure : ClosureError}
      (begins : Begins expansion sink roots log last final asked before)
      (allowed : last ≤ expansion.config.effectiveMaxIterations)
      (turned : expansion.turn sink last final asked before = .failed failure after) :
      Ends expansion sink roots log (.error failure) after
  | converged {last : Nat} {final : ClosureState} {asked : List Reference} {before after : Log}
      {closure : Closure}
      (begins : Begins expansion sink roots log last final asked before)
      (allowed : last ≤ expansion.config.effectiveMaxIterations)
      (turned : expansion.turn sink last final asked before = .converged closure after) :
      Ends expansion sink roots log (.ok closure) after

theorem ends_iterate {left : Nat} {outcome : Except ClosureError Closure} {after : Log}
    (begins : Begins expansion sink roots log iteration state asked before)
    (total : left + iteration = expansion.config.effectiveMaxIterations + 1)
    (done : expansion.iterate sink left iteration state asked before = (outcome, after)) :
    Ends expansion sink roots log outcome after := by
  induction left generalizing iteration state asked before with
  | zero =>
      obtain ⟨rfl, rfl⟩ := Prod.mk.inj done
      obtain rfl : iteration = expansion.config.effectiveMaxIterations + 1 := by omega
      exact .exhausted begins
  | succ left ih =>
      have allowed : iteration ≤ expansion.config.effectiveMaxIterations := by omega
      rw [iterate] at done
      split at done
      · next turned =>
        obtain ⟨rfl, rfl⟩ := Prod.mk.inj done
        exact .failed begins allowed turned
      · next turned =>
        obtain ⟨rfl, rfl⟩ := Prod.mk.inj done
        exact .converged begins allowed turned
      · next turned => exact ih (begins.next allowed turned) (by omega) done

/-- **A run ends nowhere else**: before its first iteration, in an iteration that it
has begun, or because it has no iteration left. -/
theorem ends_run {outcome : Except ClosureError Closure} {after : Log}
    (done : expansion.run sink roots log = (outcome, after)) :
    Ends expansion sink roots log outcome after := by
  rw [run] at done
  split at done
  · next failed =>
    obtain ⟨rfl, rfl⟩ := Prod.mk.inj done
    exact .unstarted failed
  · next started =>
    split at done
    · next failed =>
      obtain ⟨rfl, rfl⟩ := Prod.mk.inj done
      exact .unwritten started failed
    · next accepted => exact ends_iterate (.first started accepted) rfl done

/-- **Where a run fails**: before its first iteration, in an iteration that it has
begun, or because it has no iteration left. -/
theorem run_eq_error {failure : ClosureError} {after : Log}
    (failed : expansion.run sink roots log = (.error failure, after)) :
    expansion.FailsWith failure ∨ (∃ cause, failure = .storage cause) ∨
      failure = .iterationLimit expansion.config.effectiveMaxIterations ∨
      ∃ last final asked before, Begins expansion sink roots log last final asked before ∧
        last ≤ expansion.config.effectiveMaxIterations ∧
        expansion.turn sink last final asked before = .failed failure after := by
  cases ends_run failed with
  | unstarted notStarted => exact .inl (start_eq_error notStarted)
  | unwritten _ _ => exact .inr (.inl ⟨_, rfl⟩)
  | exhausted _ => exact .inr (.inr (.inl rfl))
  | failed begins allowed turned =>
      exact .inr (.inr (.inr ⟨_, _, _, _, begins, allowed, turned⟩))

/-- **Where a run succeeds**: in an iteration that it has begun. -/
theorem run_eq_ok {closure : Closure} {after : Log}
    (done : expansion.run sink roots log = (.ok closure, after)) :
    ∃ last final asked before, Begins expansion sink roots log last final asked before ∧
      last ≤ expansion.config.effectiveMaxIterations ∧
      expansion.turn sink last final asked before = .converged closure after := by
  cases ends_run done with
  | converged begins allowed turned => exact ⟨_, _, _, _, begins, allowed, turned⟩

end SchemaPlan.Expansion
