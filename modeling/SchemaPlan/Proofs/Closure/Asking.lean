import SchemaPlan.Proofs.Closure.Progress

/-!
# No reference is asked twice

When the pending references of a state are resolved, an answer to each of them is
noted, whatever the catalog says.  What has been noted stays, and what is noted is
not pending.  So the references that have been pending are those noted
(`Begins.asked_eq`), and no reference is pending in two iterations.

A run gives up on references that have been pending too often.  A reference is
pending for the first time, if at all, so a run that tolerates one such time never
gives up, and a run that tolerates none does as soon as anything is pending.
-/

set_option autoImplicit false

namespace SchemaPlan

namespace ClosureState

variable {state : ClosureState} {reference : Reference}

/-- What has been noted is answered. -/
theorem exists_target?_of_resolved (noted : reference ∈ state.resolved.map (·.1)) :
    ∃ target, state.target? reference = some target := by
  obtain ⟨⟨_, found⟩, member, rfl⟩ := List.mem_map.mp noted
  obtain ⟨answer, answered⟩ :=
    Option.isSome_iff_exists.mp (answered?_isSome.mpr ⟨found, member⟩)
  exact ⟨_, by rw [target?_eq, answered]⟩

/-- What is pending has not been noted. -/
theorem not_mem_resolved_of_pending (isOpen : reference ∈ state.pending.map (·.1)) :
    reference ∉ state.resolved.map (·.1) := by
  obtain ⟨⟨_, referrer⟩, member, rfl⟩ := List.mem_map.mp isOpen
  obtain ⟨_, _, _, _, unanswered⟩ := mem_pending member
  intro noted
  obtain ⟨target, answered⟩ := exists_target?_of_resolved noted
  rw [unanswered] at answered
  cases answered

end ClosureState

/-- A valid configuration tolerates that a reference is pending once. -/
theorem Config.one_le_repeats_of_valid {config : Config} (valid : config.validate = .ok ()) :
    1 ≤ config.closure.effectiveMaxUnresolvedRepeats := by
  rw [ClosureConfig.effectiveMaxUnresolvedRepeats]
  cases given : config.closure.maxUnresolvedRepeats with
  | none => exact Nat.le_add_left 1 2
  | some repeats =>
      rw [Option.getD_some, Nat.one_le_iff_ne_zero]
      rintro rfl
      rw [validate, given, if_pos rfl] at valid
      split at valid <;> cases valid

namespace Expansion

variable {expansion : Expansion} {state after : ClosureState} {iteration : Nat}

/-! ## Noting the answers -/

theorem map_resolved_resolveOne {entry : Reference × ObjectRef}
    (resolved : expansion.resolveOne iteration state entry = .ok after) :
    after.resolved.map (·.1) = state.resolved.map (·.1) ++ [entry.1] := by
  rcases resolveOne_eq_ok resolved with ⟨row, _, taken⟩ | ⟨_, rfl⟩
  · rw [resolved_takeUp taken, ClosureState.noteFound, List.map_append]
    rfl
  · rw [(ClosureState.fields_noteUnresolved state entry.1 entry.2 iteration).2.2.1,
      List.map_append]
    rfl

/-- **Every reference that is asked is noted.** -/
theorem map_resolved_resolveAll {pending : List (Reference × ObjectRef)}
    (resolved : expansion.resolveAll iteration state pending = .ok after) :
    after.resolved.map (·.1) = state.resolved.map (·.1) ++ pending.map (·.1) := by
  induction pending generalizing state with
  | nil =>
      obtain rfl := Outcome.pure_eq_ok.mp resolved
      exact (List.append_nil _).symm
  | cons entry rest ih =>
      rw [resolveAll, List.foldlM_cons, Outcome.bind_eq_ok] at resolved
      obtain ⟨middle, one, others⟩ := resolved
      rw [ih others, map_resolved_resolveOne one, List.append_assoc]
      rfl

/-- Before the first iteration nothing has been noted. -/
theorem resolved_start {roots : List ObjectRef} (started : expansion.start roots = .ok state) :
    state.resolved = [] := by
  obtain ⟨owners, _, taken⟩ := start_eq_ok started
  exact @Outcome.foldlM_induction _ _ _ _ (fun later => later.resolved = []) _ _ _
    (ClosureState.fields_seed_initial owners expansion.prior).2.2
    (fun _ _ _ _ nothing one => (resolved_takeUp one).trans nothing) taken

variable {Log : Type} {sink : EdgeSink Log} {roots : List ObjectRef} {log before : Log}
  {asked : List Reference}

/-- **The references that have been pending are those noted.** -/
theorem Begins.asked_eq (begins : Begins expansion sink roots log iteration state asked before) :
    asked = state.resolved.map (·.1) := by
  induction begins with
  | first started _ => rw [ClosureState.written, resolved_start started, List.map_nil]
  | @next _ state _ _ _ _ _ _ _ goesOn ih =>
      obtain ⟨_, resolved, isResolved, rfl⟩ := turn_spec.2 _ _ _ goesOn
      have same := (ClosureState.fields_of_bare (ClosureState.bare_written_scanned state)).2.2.1
      rw [(turn_eq_onward goesOn).2, ih, ← same]
      exact (map_resolved_resolveAll isResolved).symm

/-- What is pending in an iteration is not pending in a later one. -/
theorem Begins.not_pending_later {later : Nat} {final : ClosureState}
    (begins : Begins expansion sink roots log later final asked before)
    (scans : Scans expansion roots iteration state) (order : iteration < later)
    {reference : Reference} (isOpen : reference ∈ state.pending.map (·.1)) :
    reference ∉ final.pending.map (·.1) := by
  obtain ⟨further, more, _, next⟩ := begins.earlier (Nat.le_add_left 1 iteration) order
  obtain ⟨_, _, _, _, goesOn⟩ := next.inv_succ scans
  have noted : reference ∈ further.resolved.map (·.1) := by
    rw [← next.asked_eq, (turn_eq_onward goesOn).2]
    exact List.mem_append_right _ isOpen
  have kept := (next.scans.extends begins.scans order).resolved.map (·.1)
  exact fun stillOpen => ClosureState.not_mem_resolved_of_pending stillOpen (kept.subset noted)

/-! ## Giving up -/

/-- Each pending reference has been pending once, counting this iteration. -/
theorem stalled_eq (state : ClosureState) :
    expansion.stalled (state.resolved.map (·.1) ++ state.pending.map (·.1)) state.pending =
      if expansion.config.effectiveMaxUnresolvedRepeats = 0 then state.pending.map (·.1)
      else [] := by
  have once : ∀ reference ∈ state.pending.map (·.1),
      ((state.resolved.map (·.1) ++ state.pending.map (·.1)).filter
        fun other => decide (other = reference)).length = 1 := by
    intro reference isOpen
    rw [← List.countP_eq_length_filter, List.countP_append]
    have before : (state.resolved.map (·.1)).countP (fun other => decide (other = reference)) = 0 :=
      List.count_eq_zero.mpr (ClosureState.not_mem_resolved_of_pending isOpen)
    have now : (state.pending.map (·.1)).countP (fun other => decide (other = reference)) = 1 :=
      List.count_eq_one_of_mem (ClosureState.nodup_map_pending state) isOpen
    rw [before, now]
  rw [stalled, List.filter_congr fun reference isOpen => by rw [once reference isOpen]]
  split
  · next none => simp [none]
  · next some =>
    rw [List.filter_eq_nil_iff]
    intro reference _ isStalled
    exact some (Nat.lt_one_iff.mp (of_decide_eq_true isStalled))

/-- A run that has been led on tolerates that a reference is pending once. -/
theorem Begins.tolerant (begins : Begins expansion sink roots log iteration state asked before)
    (later : 1 < iteration) : expansion.config.effectiveMaxUnresolvedRepeats ≠ 0 := by
  cases begins with
  | first _ _ => exact absurd later (Nat.lt_irrefl 1)
  | @next iteration state further asked more before after begins _ goesOn =>
      have turned := turnsInto_turn expansion sink iteration state asked before
      rw [goesOn] at turned
      cases turned with
      | onward _ _ pending patient _ _ =>
          intro intolerant
          rw [begins.asked_eq, stalled_eq, if_pos intolerant] at patient
          exact pending (List.map_eq_nil_iff.mp patient)

/-- Owners are filled in one name after the other until the sink refuses one. -/
theorem backfillSink_cases (sink : EdgeSink Log) (log : Log) (repairs : List (String × String)) :
    (∃ left, backfillSink sink log repairs = (.ok (), left)) ∨
      ∃ repair ∈ repairs, ∃ left cause, sink.backfill left repair.1 repair.2 = .error cause ∧
        backfillSink sink log repairs = (.error (.storage cause), left) := by
  induction repairs generalizing log with
  | nil => exact .inl ⟨log, rfl⟩
  | cons repair rest ih =>
      rw [backfillSink]
      split
      · refine (ih _).imp_right fun ⟨other, later, refused⟩ => ?_
        exact ⟨other, List.mem_cons_of_mem repair later, refused⟩
      · next cause refused => exact .inr ⟨repair, List.mem_cons_self, log, cause, refused, rfl⟩

theorem backfillSink_eq_error {repairs : List (String × String)} {failure : ClosureError}
    {left : Log} (failed : backfillSink sink log repairs = (.error failure, left)) :
    ∃ cause, failure = .storage cause := by
  rcases backfillSink_cases sink log repairs with ⟨_, done⟩ | ⟨_, _, _, cause, _, refused⟩
  · cases failed.symm.trans done
  · exact ⟨cause, Except.error.inj (Prod.mk.inj (failed.symm.trans refused)).1⟩

/-- An iteration that gives up has references that have been pending too often. -/
theorem turn_eq_unconverged {names : List String} {repeats : Nat} {left : Log}
    (failed : expansion.turn sink iteration state asked before =
      .failed (.unconverged names repeats) left) :
    expansion.isCancelled (iteration - 1) = false ∧
      expansion.stalled (asked ++ state.pending.map (·.1)) state.pending ≠ [] := by
  have turned := turnsInto_turn expansion sink iteration state asked before
  rw [failed] at turned
  cases turned with
  | unrepaired _ _ unrepaired =>
      obtain ⟨cause, isStorage⟩ := backfillSink_eq_error unrepaired
      cases isStorage
  | stalled free _ tooOften => exact ⟨free, tooOften⟩
  | unresolved _ _ unresolved => cases resolveAll_eq_error unresolved

/-- **An iteration with pending references gives up** if no time is tolerated. -/
theorem turn_of_intolerant (free : expansion.isCancelled (iteration - 1) = false)
    (accepts : ∀ content records, ∃ accepted, sink.append content records = .ok accepted)
    (intolerant : expansion.config.effectiveMaxUnresolvedRepeats = 0)
    (isOpen : state.pending ≠ []) :
    ∃ names repeats after,
      expansion.turn sink iteration state (state.resolved.map (·.1)) before =
        .failed (.unconverged names repeats) after := by
  have tooOften : expansion.stalled (state.resolved.map (·.1) ++ state.pending.map (·.1))
      state.pending ≠ [] := by
    rw [stalled_eq, if_pos intolerant]
    simpa using isOpen
  have turned := turnsInto_turn expansion sink iteration state (state.resolved.map (·.1)) before
  generalize expansion.turn sink iteration state (state.resolved.map (·.1)) before = result
    at turned ⊢
  cases turned with
  | cancelled isCancelled => exact absurd (free.symm.trans isCancelled) (by decide)
  | refused _ failed =>
      obtain ⟨accepted, appended⟩ := accepts before state.scanned.batch
      cases failed.symm.trans appended
  | unrepaired _ nothing _ => exact absurd nothing isOpen
  | converged _ nothing _ => exact absurd nothing isOpen
  | stalled _ _ _ => exact ⟨_, _, _, rfl⟩
  | unresolved _ patient _ => exact absurd patient tooOften
  | unwritten _ patient _ _ => exact absurd patient tooOften
  | onward _ _ _ patient _ _ => exact absurd patient tooOften

/-! ## Runs -/

/-- A run that has not converged has scanned a state with references that have been
pending too often. -/
theorem visits_of_unconverged {names : List String} {repeats : Nat} {after : Log}
    (failed : expansion.run sink roots log = (.error (.unconverged names repeats), after)) :
    ∃ iteration state, Visits expansion sink roots log iteration state ∧
      expansion.stalled (state.resolved.map (·.1) ++ state.pending.map (·.1)) state.pending ≠
        [] := by
  rcases run_eq_error failed with asked | ⟨_, isStorage⟩ | isLimit |
    ⟨iteration, state, asked, before, begins, allowed, turned⟩
  · cases asked
  · cases isStorage
  · cases isLimit
  · obtain ⟨free, stalled⟩ := turn_eq_unconverged turned
    rw [begins.asked_eq] at stalled
    exact ⟨iteration, state, ⟨_, _, begins, allowed, free⟩, stalled⟩

/-- **A tolerant run converges or fails for another reason.** -/
theorem run_ne_unconverged (tolerant : 1 ≤ expansion.config.effectiveMaxUnresolvedRepeats)
    (names : List String) (repeats : Nat) (after : Log) :
    expansion.run sink roots log ≠ (.error (.unconverged names repeats), after) := by
  intro failed
  obtain ⟨_, state, _, stalled⟩ := visits_of_unconverged failed
  rw [stalled_eq, if_neg (Nat.one_le_iff_ne_zero.mp tolerant)] at stalled
  exact stalled rfl

/-- **An intolerant run** does not converge exactly if it scans a state with
something pending. -/
theorem run_eq_unconverged_iff (intolerant : expansion.config.effectiveMaxUnresolvedRepeats = 0)
    (accepts : ∀ content records, ∃ accepted, sink.append content records = .ok accepted) :
    (∃ names repeats after,
      expansion.run sink roots log = (.error (.unconverged names repeats), after)) ↔
    ∃ iteration state, Visits expansion sink roots log iteration state ∧ state.pending ≠ [] := by
  constructor
  · rintro ⟨names, repeats, after, failed⟩
    obtain ⟨iteration, state, visits, stalled⟩ := visits_of_unconverged failed
    refine ⟨iteration, state, visits, fun nothing => stalled ?_⟩
    rw [nothing]
    rfl
  · rintro ⟨iteration, state, ⟨asked, before, begins, allowed, free⟩, pending⟩
    obtain ⟨left, isLimit⟩ := Nat.exists_eq_add_of_le allowed
    have total : left + 1 + iteration = expansion.config.effectiveMaxIterations + 1 := by omega
    have rest := begins.run_eq total
    obtain ⟨names, repeats, after, turned⟩ :=
      @turn_of_intolerant _ _ _ _ _ before free accepts intolerant pending
    rw [begins.asked_eq, iterate, turned] at rest
    exact ⟨names, repeats, after, rest⟩

/-- **No reference is asked twice**, whatever the catalog, the sources and the sink
answer: no reference is pending in two iterations of a run.  A valid configuration
tolerates one time, and then a run never ends because it has not converged.  When
none is tolerated, and the sink accepts all records, a run ends so exactly if it
scans a state with something pending. -/
theorem asks_once (expansion : Expansion) (sink : EdgeSink Log) (roots : List ObjectRef)
    (log : Log) :
    (∀ first second earlier later, first ≠ second →
      Visits expansion sink roots log first earlier →
      Visits expansion sink roots log second later →
      ∀ reference ∈ earlier.pending.map (·.1), reference ∉ later.pending.map (·.1)) ∧
    (∀ config : Config, config.validate = .ok () →
      1 ≤ config.closure.effectiveMaxUnresolvedRepeats) ∧
    (1 ≤ expansion.config.effectiveMaxUnresolvedRepeats → ∀ names repeats after,
      expansion.run sink roots log ≠ (.error (.unconverged names repeats), after)) ∧
    (expansion.config.effectiveMaxUnresolvedRepeats = 0 →
      (∀ content records, ∃ accepted, sink.append content records = .ok accepted) →
      ((∃ names repeats after,
          expansion.run sink roots log = (.error (.unconverged names repeats), after)) ↔
        ∃ iteration state, Visits expansion sink roots log iteration state ∧
          state.pending ≠ [])) := by
  refine ⟨?_, ?_, ?_, ?_⟩
  · rintro first second earlier later differ ⟨_, _, begins, _⟩ ⟨_, _, alsoBegins, _⟩ reference
      isOpen stillOpen
    rcases Nat.lt_or_gt_of_ne differ with before | after
    · exact alsoBegins.not_pending_later begins.scans before isOpen stillOpen
    · exact begins.not_pending_later alsoBegins.scans after stillOpen isOpen
  · exact fun config valid => Config.one_le_repeats_of_valid valid
  · exact run_ne_unconverged
  · exact run_eq_unconverged_iff

/-- The catalog that finds nothing. -/
def silentCatalog : Catalog where
  owners := .ok []
  findInPackage _ _ _ := .ok []
  findByOwner _ _ := .ok []
  existingPackages _ := .ok ∅

/-- The expansion of a procedure that calls one that does not exist. -/
def silentExpansion (repeats : Nat) : Expansion where
  catalog := silentCatalog
  sources := (SourceShelf.ofEntries [.new "A" "" "ENTRY" "HELP(1);"]).store
  config := { maxUnresolvedRepeats := some repeats }

/-- The procedure that calls. -/
def silentRoot : ObjectRef := ObjectRef.new (some "A") (.rootLevel .procedure "ENTRY")

theorem start_silentExpansion : ((silentExpansion 0).start [silentRoot]).toOption.map
    (fun state => state.written.pending.map fun entry => entry.1.name) = some ["HELP"] := by
  with_unfolding_all rfl

/-- The call is pending in the first iteration.  That is too often if no time is
tolerated, and not if one is. -/
theorem silentExpansion_asks_once :
    (∃ names repeats after, (silentExpansion 0).run EdgeList.sink [silentRoot] [] =
      (.error (.unconverged names repeats), after)) ∧
    ∀ names repeats after, (silentExpansion 1).run EdgeList.sink [silentRoot] [] ≠
      (.error (.unconverged names repeats), after) := by
  have pending : ∃ iteration state,
      Visits (silentExpansion 0) EdgeList.sink [silentRoot] [] iteration state ∧
        state.pending ≠ [] := by
    cases started : (silentExpansion 0).start [silentRoot] with
    | error failure =>
        have reading := start_silentExpansion
        rw [started] at reading
        cases reading
    | ok state =>
        have reading := start_silentExpansion
        rw [started] at reading
        refine ⟨1, state.written, ⟨[], _, .first started rfl, by decide, rfl⟩, fun nothing => ?_⟩
        simp [Except.toOption, nothing] at reading
  exact ⟨((asks_once _ _ _ _).2.2.2 rfl fun _ _ => ⟨_, rfl⟩).mpr pending,
    (asks_once _ _ _ _).2.2.1 (by decide)⟩

end Expansion

end SchemaPlan
